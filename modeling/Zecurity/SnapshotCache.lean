import Zecurity.Compiler
import Zecurity.EpochCache

/-!
The cache of access-control snapshots under concurrency (`controller/internal/policy/cache.go`,
`controller/internal/policy/notifier.go`), for one workspace of one controller process.

A policy mutation is a database commit, the increment of the version counter and the
`Invalidate`, as three steps. `GetOrCompile` is a `Get`, and on a miss a `singleflight` call, whose
key is released after the function has returned. All steps interleave freely; the clock is whatever
the step says.
-/

namespace Zecurity.SnapshotCache

open Compiler EpochCache List Option Posture

/-- The database queries of `CompileACLSnapshot`. -/
def numReads : ℕ := 8

structure Snap extends EpochCache.Snap where
  validUntil : Time
  /-- the epoch captured before the compile (ghost) -/
  observed : UInt64
  /-- how many snapshots were compiled before this one (ghost) -/
  born : ℕ
  deriving DecidableEq

/-- What `GetOrCompile` returns; `lost` marks a snapshot returned uncached after the epoch
comparison was lost `maxCompileRetries` times. -/
inductive Outcome
  | snapshot (x : Snap) (lost : Bool)
  | failed
  deriving DecidableEq

inductive CallPhase
  | getting (p : GetPhase)
  | missed
  | waiting
  | returned (o : Outcome)
  deriving DecidableEq

structure Caller where
  /-- the epoch when the call began (ghost) -/
  begun : UInt64
  /-- `State.top` when the call began (ghost) -/
  floor : ℕ
  phase : CallPhase
  deriving DecidableEq

structure State where
  core : Core Snap
  committed : List Mutation
  /-- the version that each mutation's increment produced (ghost) -/
  counted : List (Mutation × UInt64)
  notifying : List Mutation
  calls : CallId → Option Caller
  flight : Option (Flight Snap Outcome)
  /-- all snapshots compiled so far, in the order of their version reads (ghost) -/
  hist : List Snap
  /-- one more than the latest `born` of a returned snapshot (ghost) -/
  top : ℕ

def init : State := ⟨⟨0, 0, none⟩, [], [], [], fun _ => none, none, [], 0⟩

def compileFn : CompileFn Snap Outcome := ⟨numReads, fun x => x.version, .snapshot, .failed⟩

def expiredAt (now : Time) (x : Snap) : Bool := !usableAt x.validUntil now

/-- A caller that waits for the flight gets its outcome. -/
def Caller.release (o : Outcome) (k : Caller) : Caller :=
  if k.phase = .waiting then { k with phase := .returned o } else k

def Outcome.top (o : Outcome) (top : ℕ) : ℕ :=
  match o with
  | .snapshot x _ => max top (x.born + 1)
  | .failed => top

namespace State

variable (s : State)

def setCall (id : CallId) (k : Caller) : State :=
  { s with calls := Function.update s.calls id (some k) }

/-- After a step of the first `Get` of a call. -/
def afterGet (id : CallId) (k : Caller) : GetResult Snap → State
  | .again p => s.setCall id { k with phase := .getting p }
  | .hit x =>
    { s with top := (Outcome.snapshot x false).top s.top }.setCall id
      { k with phase := .returned (.snapshot x false) }
  | .miss => s.setCall id { k with phase := .missed }

/-- The flight makes a move. -/
def fly (m : Move Snap) : Option State :=
  s.flight.bind fun fl => (fl.next compileFn s.core s.committed m).map fun r =>
    { s with core := r.1, flight := some r.2 }

def compiled : Option Snap :=
  s.flight.bind fun fl =>
    match fl.phase with
    | .compiled _ x => some x
    | _ => none

end State

inductive Action
  | commit (m : Mutation)
  | incr (m : Mutation)
  | inval (m : Mutation)
  | begin (id : CallId)
  | get (id : CallId) (now : Time)
  | enter (id : CallId)
  | capture
  | read
  | fail
  | versionRead (validUntil : Time)
  | store
  | reget (now : Time)
  | release

def step (s : State) : Action → Option State
  | .commit m => if m ∈ s.committed then none else some { s with committed := m :: s.committed }
  | .incr m =>
    if m ∈ s.committed ∧ m ∉ s.counted.map Prod.fst then
      some { s with
        core := s.core.bump
        counted := (m, s.core.version + 1) :: s.counted
        notifying := m :: s.notifying }
    else none
  | .inval m =>
    if m ∈ s.notifying then
      some { s with core := s.core.invalidate, notifying := s.notifying.erase m }
    else none
  | .begin id =>
    match s.calls id with
    | none => some (s.setCall id ⟨s.core.epoch, s.top, .getting .read⟩)
    | some _ => none
  | .get id now =>
    match s.calls id with
    | some ⟨begun, floor, .getting p⟩ =>
      let r := s.core.getStep (expiredAt now) p
      some ({ s with core := r.1 }.afterGet id ⟨begun, floor, .getting p⟩ r.2)
    | _ => none
  | .enter id =>
    match s.calls id with
    | some ⟨begun, floor, .missed⟩ =>
      some { s.setCall id ⟨begun, floor, .waiting⟩ with flight := s.flight.or (some ⟨0, .loop⟩) }
    | _ => none
  | .capture => s.fly .capture
  | .read => s.fly .read
  | .fail => s.fly .fail
  | .versionRead validUntil =>
    (s.fly (.versionRead fun seen version observed =>
      ⟨⟨seen, version⟩, validUntil, observed, s.hist.length⟩)).map fun s' =>
        { s' with hist := s.hist ++ s'.compiled.toList }
  | .store => s.fly .store
  | .reget now => s.fly (.reget (expiredAt now))
  | .release =>
    match s.flight with
    | some ⟨_, .finished o⟩ =>
      some { s with
        flight := none
        calls := fun id => (s.calls id).map (Caller.release o)
        top := o.top s.top }
    | _ => none

/-- A compile without interference, and its store. -/
def oneCompile : List Action :=
  .capture :: (List.replicate numReads .read ++ [Action.versionRead 0, .store])

def State.Returned (s : State) (id : CallId) (x : Snap) (lost : Bool) : Prop :=
  ∃ begun floor, s.calls id = some ⟨begun, floor, .returned (.snapshot x lost)⟩

/-- The gate of `pushACLSnapshot`: a connector that reports the snapshot's version, and not 0,
is sent nothing. -/
def gateSkips (connectorVersion snapVersion : UInt64) : Bool :=
  connectorVersion != 0 && connectorVersion == snapVersion

variable {s s' : State} {a : Action} {m : Move Snap} {id : CallId} {k : Caller} {x : Snap}

lemma fly_eq_some : s.fly m = some s' ↔ ∃ fl c fl', s.flight = some fl ∧
    fl.next compileFn s.core s.committed m = some (c, fl') ∧
    { s with core := c, flight := some fl' } = s' := by
  simp [State.fly, bind_eq_some_iff, map_eq_some_iff]

/-- The transitions of `step`, each with its guard. -/
inductive Transition (s : State) : Action → State → Prop
  | commit {m : Mutation} :
    Transition s (.commit m) { s with committed := m :: s.committed }
  | incr {m : Mutation} (hcommitted : m ∈ s.committed) :
    Transition s (.incr m) { s with
      core := s.core.bump
      counted := (m, s.core.version + 1) :: s.counted
      notifying := m :: s.notifying }
  | inval {m : Mutation} :
    Transition s (.inval m) { s with
      core := s.core.invalidate
      notifying := s.notifying.erase m }
  | begin {id : CallId} (hid : s.calls id = none) :
    Transition s (.begin id) (s.setCall id ⟨s.core.epoch, s.top, .getting .read⟩)
  | get {id : CallId} {now begun floor} {p : GetPhase}
    (hk : s.calls id = some ⟨begun, floor, .getting p⟩) :
    Transition s (.get id now) ({ s with core := (s.core.getStep (expiredAt now) p).1 }.afterGet id
      ⟨begun, floor, .getting p⟩ (s.core.getStep (expiredAt now) p).2)
  | enter {id : CallId} {begun floor} (hk : s.calls id = some ⟨begun, floor, .missed⟩) :
    Transition s (.enter id) { s.setCall id ⟨begun, floor, .waiting⟩ with
      flight := s.flight.or (some ⟨0, .loop⟩) }
  | fly {a : Action} {m : Move Snap} {s' : State} (hm : ∀ x, m ≠ .versionRead x)
      (ha : m = .store → a = .store) (hs : s.fly m = some s') : Transition s a s'
  | versionRead {n : ℕ} {observed seen validUntil}
    (hf : s.flight = some ⟨n, .compiling observed seen⟩) (hlen : seen.length = numReads) :
    Transition s (.versionRead validUntil) { s with
      flight := some ⟨n, .compiled observed
        ⟨⟨seen, s.core.version⟩, validUntil, observed, s.hist.length⟩⟩
      hist := s.hist ++ [⟨⟨seen, s.core.version⟩, validUntil, observed, s.hist.length⟩] }
  | release {n : ℕ} {o} (hf : s.flight = some ⟨n, .finished o⟩) :
    Transition s .release { s with
      flight := none
      calls := fun id => (s.calls id).map (Caller.release o)
      top := o.top s.top }

lemma transition_of_step (hs : step s a = some s') : Transition s a s' := by
  revert hs
  fun_cases step s a
  · rintro ⟨⟩
  · rintro ⟨⟩; exact .commit
  · next hm => rintro ⟨⟩; exact .incr hm.1
  · rintro ⟨⟩
  · rintro ⟨⟩; exact .inval
  · rintro ⟨⟩
  · next hid => rintro ⟨⟩; exact .begin hid
  · rintro ⟨⟩
  · next hk _ => rintro ⟨⟩; exact .get hk
  · rintro ⟨⟩
  · next hk => rintro ⟨⟩; exact .enter hk
  · rintro ⟨⟩
  · exact .fly (by simp) (by simp)
  · exact .fly (by simp) (by simp)
  · exact .fly (by simp) (by simp)
  · intro hs
    obtain ⟨u, hu, rfl⟩ := map_eq_some_iff.1 hs
    obtain ⟨⟨n, phase⟩, c, fl', hf, hn, rfl⟩ := fly_eq_some.1 hu
    cases phase with
    | compiling observed seen =>
      obtain ⟨hlen, hn⟩ := ite_some_none_eq_some.1 hn
      cases hn
      exact .versionRead hf hlen
    | _ => cases hn
  · exact .fly (by simp) fun _ => rfl
  · exact .fly (by simp) (by simp)
  · next hf => rintro ⟨⟩; exact .release hf
  · rintro ⟨⟩

/-! ### The invariant -/

/-- What is known of the flight. A compile whose epoch is behind has an empty slot; so has one
that lost the comparison; the snapshot a flight holds is the latest compiled; and nothing
but a flight's own result is in the slot once it has one. -/
def PhaseOk (c : Core Snap) (hist : List Snap) : FlightPhase Snap Outcome → Prop
  | .loop => True
  | .compiling observed _ => observed ≤ c.epoch ∧ (c.slot ≠ none → observed = c.epoch)
  | .compiled observed x => x ∈ hist ∧ x.born + 1 = hist.length ∧ x.observed = observed ∧
      observed ≤ c.epoch ∧ (c.slot ≠ none → observed = c.epoch)
  | .regetting x _ => x ∈ hist ∧ x.born + 1 = hist.length ∧ c.slot = none
  | .finished (.snapshot x _) => x ∈ hist ∧ x.born + 1 = hist.length ∧
      ∀ y, c.slot = some y → y = x
  | .finished .failed => True

structure Inv (s : State) : Prop where
  /-- a snapshot's `born` is its place in the history -/
  born : ∀ x ∈ s.hist, s.hist[x.born]? = some x
  sorted : s.hist.Pairwise fun x y => x.version ≤ y.version
  below : ∀ x ∈ s.hist, x.version ≤ s.core.version
  top : s.top ≤ s.hist.length
  slot : ∀ y, s.core.slot = some y → y ∈ s.hist ∧ y.observed = s.core.epoch ∧ s.top ≤ y.born + 1
  phase : ∀ f, s.flight = some f → PhaseOk s.core s.hist f.phase
  callers : ∀ id k, s.calls id = some k → k.begun ≤ s.core.epoch ∧ k.floor ≤ s.top
  returned : ∀ id begun floor x lost,
    s.calls id = some ⟨begun, floor, .returned (.snapshot x lost)⟩ →
      x ∈ s.hist ∧ floor ≤ x.born + 1 ∧ x.born + 1 ≤ s.top

lemma inv_init : Inv init where
  born := nofun
  sorted := List.Pairwise.nil
  below := nofun
  top := le_rfl
  slot := nofun
  phase := nofun
  callers := nofun
  returned := nofun

variable {p : GetPhase} {n : ℕ} {c : Core Snap}

lemma PhaseOk.weaken {c' hist p} (h : PhaseOk c hist p) (hw : c.Weakens c') (hr : c.Room) :
    PhaseOk c' hist p := by
  rcases hw.slot with hn | ⟨hs, he⟩
  · have hle := hw.epoch_le hr
    cases p with
    | loop => trivial
    | compiling obs seen => exact ⟨UInt64.le_trans h.1 hle, fun hne => absurd hn hne⟩
    | compiled obs x =>
      obtain ⟨hm, hb, ho, hobs, -⟩ := h
      exact ⟨hm, hb, ho, UInt64.le_trans hobs hle, fun hne => absurd hn hne⟩
    | regetting x p => exact ⟨h.1, h.2.1, hn⟩
    | finished o =>
      cases o with
      | snapshot x lost => exact ⟨h.1, h.2.1, fun y hy => by rw [hn] at hy; cases hy⟩
      | failed => trivial
  · cases p with
    | loop => trivial
    | compiling | compiled => rw [PhaseOk, hs, he]; exact h
    | regetting x p => rw [PhaseOk, hs]; exact h
    | finished o =>
      cases o with
      | snapshot x lost => rw [PhaseOk, hs]; exact h
      | failed => trivial

section

variable (h : Inv s)
include h

lemma Inv.weaken (hw : s.core.Weakens c) (hr : s.core.Room) :
    Inv { s with core := c } where
  __ := h
  below := fun x hx => UInt64.le_trans (h.below x hx) (hw.version_le hr)
  slot := fun y hy => by
    rcases hw.slot with hn | ⟨hs, he⟩
    · simp [hn] at hy
    · simp only [hs] at hy
      simp only [he]
      exact h.slot y hy
  phase := fun f hf => (h.phase f hf).weaken hw hr
  callers := fun id k hk =>
    ⟨UInt64.le_trans (h.callers id k hk).1 (hw.epoch_le hr), (h.callers id k hk).2⟩

lemma Inv.setCall (hb : k.begun ≤ s.core.epoch) (hf : k.floor ≤ s.top)
    (hr : ∀ x lost, k.phase = .returned (.snapshot x lost) →
      x ∈ s.hist ∧ k.floor ≤ x.born + 1 ∧ x.born + 1 ≤ s.top) : Inv (s.setCall id k) := by
  refine { h with callers := fun i k' hk' => ?_, returned := fun i begun floor x lost hk' => ?_ }
  · rcases Runs.update_apply_eq_iff.1 hk' with ⟨-, ⟨⟩⟩ | ⟨-, hk'⟩
    · exact ⟨hb, hf⟩
    · exact h.callers i k' hk'
  · rcases Runs.update_apply_eq_iff.1 hk' with ⟨-, ⟨⟩⟩ | ⟨-, hk'⟩
    · exact hr x lost rfl
    · exact h.returned i begun floor x lost hk'

lemma Inv.setFlight {f} (hp : PhaseOk s.core s.hist f.phase) :
    Inv { s with flight := some f } := { h with phase := fun f' hf => by cases hf; exact hp }

lemma Inv.raiseTop (hx : x ∈ s.hist) (hs : ∀ y, s.core.slot = some y → y = x) :
    Inv { s with top := max s.top (x.born + 1) } where
  __ := h
  top := by
    have hlt : x.born < s.hist.length := (List.getElem?_eq_some_iff.1 (h.born x hx)).1
    exact max_le h.top hlt
  slot := fun y hy => by
    obtain ⟨hm, ho, ht⟩ := h.slot y hy
    obtain rfl := hs y hy
    exact ⟨hm, ho, max_le ht le_rfl⟩
  callers := fun id k hk =>
    ⟨(h.callers id k hk).1, (h.callers id k hk).2.trans (le_max_left _ _)⟩
  returned := fun id begun floor y lost hk => by
    obtain ⟨hm, hf, ht⟩ := h.returned id begun floor y lost hk
    exact ⟨hm, hf, ht.trans (le_max_left _ _)⟩

lemma Inv.withMutations (committed : List Mutation) (counted : List (Mutation × UInt64))
    (notifying : List Mutation) : Inv { s with committed, counted, notifying } := { h with }

lemma Inv.afterGet (hroom : s.core.Room) (hk : s.calls id = some k) {now} :
    Inv ({ s with core := (s.core.getStep (expiredAt now) p).1 }.afterGet id k
      (s.core.getStep (expiredAt now) p).2) := by
  obtain ⟨hw, hh⟩ := s.core.getStep_spec (expiredAt now) p
  have hw' := h.weaken hw hroom
  have hb := h.callers id k hk
  have hbg := UInt64.le_trans hb.1 (hw.epoch_le hroom)
  rcases hr : (s.core.getStep (expiredAt now) p).2 with p' | x | _
  · exact hw'.setCall hbg hb.2 (by simp)
  · obtain ⟨hc, hs⟩ := hh x hr
    obtain ⟨hm, -, ht⟩ := h.slot x hs
    rw [hc]
    refine (h.raiseTop hm fun y hy => ?_).setCall hb.1 (hb.2.trans (le_max_left _ _)) ?_
    · rw [hs] at hy; exact (Option.some.inj hy).symm
    · rintro y lost ⟨⟩
      exact ⟨hm, hb.2.trans ht, le_max_right _ _⟩
  · exact hw'.setCall hbg hb.2 (by simp)

lemma Inv.afterReget (hroom : s.core.Room) {fl last} {expired : Snap → Bool}
    (hf : s.flight = some fl) (hp : fl.phase = .regetting last p) :
    Inv { s with
      core := (s.core.getStep expired p).1
      flight := some (fl.afterReget compileFn last (s.core.getStep expired p).2) } := by
  obtain ⟨hm, hb, hnn⟩ : PhaseOk s.core s.hist (.regetting last p) := hp ▸ h.phase fl hf
  obtain ⟨hw, hh⟩ := s.core.getStep_spec expired p
  have hn' : (s.core.getStep expired p).1.slot = none := by
    rcases hw.slot with hn | ⟨hs, -⟩
    · exact hn
    · exact hs.trans hnn
  refine (h.weaken hw hroom).setFlight ?_
  rcases hr : (s.core.getStep expired p).2 with p' | x | _
  · exact ⟨hm, hb, hn'⟩
  · rw [hnn] at hh
    exact absurd (hh x hr).2 (by simp)
  · simp only [Flight.afterReget]
    split
    · refine ⟨hm, hb, fun y hy => ?_⟩
      simp [hn'] at hy
    · trivial

lemma Inv.version_le {y} (hx : x ∈ s.hist) (hy : y ∈ s.hist) (hle : x.born ≤ y.born) :
    x.version ≤ y.version := by
  obtain ⟨hbx, hgx⟩ := List.getElem?_eq_some_iff.1 (h.born x hx)
  obtain ⟨hby, hgy⟩ := List.getElem?_eq_some_iff.1 (h.born y hy)
  rcases hle.eq_or_lt with heq | hlt
  · have : x = y := by rw [← hgx, ← hgy]; simp only [heq]
    rw [this]
    exact UInt64.le_rfl
  · have := pairwise_iff_getElem.1 h.sorted x.born y.born hbx hby hlt
    rwa [hgx, hgy] at this

lemma Inv.setLocked_eq (hx : x ∈ s.hist) (hb : x.born + 1 = s.hist.length) :
    s.core.setLocked compileFn.version x = { s.core with slot := some x } := by
  unfold Core.setLocked
  split
  · next y hy =>
    have hm := (h.slot y hy).1
    have hlt : y.born < s.hist.length := (List.getElem?_eq_some_iff.1 (h.born y hm)).1
    have hle : y.version ≤ x.version := h.version_le hm hx (by omega)
    exact if_neg (UInt64.not_lt.2 hle)
  · rfl

/-- A lost comparison means that the slot has been emptied since the epoch was captured. -/
lemma Inv.fly (hroom : s.core.Room) (hm : ∀ x, m ≠ .versionRead x) (hs : s.fly m = some s') :
    Inv s' := by
  obtain ⟨fl, c, fl', hf, hn, rfl⟩ := fly_eq_some.1 hs
  have hok := h.phase fl hf
  revert hn
  fun_cases Flight.next compileFn s.core s.committed fl m <;> rintro ⟨⟩
  · exact h.setFlight ⟨UInt64.le_rfl, fun _ => rfl⟩
  · next hp _ =>
    rw [hp] at hok
    exact h.setFlight hok
  · exact h.setFlight trivial
  · exact absurd rfl (hm _)
  · next x hp =>
    rw [hp] at hok
    obtain ⟨hmem, hb, ho, -⟩ := hok
    rw [h.setLocked_eq hmem hb]
    refine { h with slot := fun y hy => ?_, phase := fun f hf' => ?_ }
    · cases hy
      exact ⟨hmem, ho, hb ▸ h.top⟩
    · cases hf'
      exact ⟨hmem, hb, fun y hy => (Option.some.inj hy).symm⟩
  · next observed x hp he =>
    rw [hp] at hok
    obtain ⟨hmem, hb, -, -, hslot⟩ := hok
    refine h.setFlight ⟨hmem, hb, ?_⟩
    by_contra hne
    exact he (hslot hne).symm
  · next hp => exact h.afterReget hroom hf hp

lemma Inv.versionRead {observed seen validUntil}
    (hf : s.flight = some ⟨n, .compiling observed seen⟩) :
    let x : Snap := ⟨⟨seen, s.core.version⟩, validUntil, observed, s.hist.length⟩
    Inv { s with flight := some ⟨n, .compiled observed x⟩, hist := s.hist ++ [x] } := by
  intro x
  obtain ⟨ho, hsl⟩ := h.phase _ hf
  refine ⟨fun y hy => ?_, ?_, fun y hy => ?_, ?_, fun y hy => ?_, fun f hf' => ?_, h.callers,
    fun id begun floor y lost hk => ?_⟩
  · rcases mem_append.1 hy with hy | hy
    · have hg := h.born y hy
      grind
    · obtain rfl := mem_singleton.1 hy
      simp [x]
  · refine pairwise_append.2 ⟨h.sorted, pairwise_singleton _ _, fun y hy z hz => ?_⟩
    obtain rfl := mem_singleton.1 hz
    exact h.below y hy
  · rcases mem_append.1 hy with hy | hy
    · exact h.below y hy
    · obtain rfl := mem_singleton.1 hy
      exact UInt64.le_rfl
  · exact h.top.trans (by simp)
  · obtain ⟨hy, hr⟩ := h.slot y hy
    exact ⟨mem_append_left _ hy, hr⟩
  · cases hf'
    exact ⟨by simp, by simp [x], rfl, ho, hsl⟩
  · obtain ⟨hy, hr⟩ := h.returned id begun floor y lost hk
    exact ⟨mem_append_left _ hy, hr⟩

lemma Inv.release {o} (hf : s.flight = some ⟨n, .finished o⟩) :
    Inv { s with
      flight := none
      calls := fun id => (s.calls id).map (Caller.release o)
      top := o.top s.top } := by
  -- the callers keep what they knew, and the waiting ones get the outcome
  have hc : ∀ {id k}, (s.calls id).map (Caller.release o) = some k →
      ∃ k0, s.calls id = some k0 ∧ k.begun = k0.begun ∧ k.floor = k0.floor ∧
        (k.phase = k0.phase ∨ k.phase = .returned o) := by
    intro id k hk
    obtain ⟨k0, hk0, rfl⟩ := Option.map_eq_some_iff.1 hk
    refine ⟨k0, hk0, ?_⟩
    unfold Caller.release
    split
    · exact ⟨rfl, rfl, .inr rfl⟩
    · exact ⟨rfl, rfl, .inl rfl⟩
  have hbs : Inv { s with top := o.top s.top } := by
    cases o with
    | failed => exact h
    | snapshot x lost =>
      obtain ⟨hm, -, hs⟩ := h.phase _ hf
      exact h.raiseTop hm hs
  refine { hbs with phase := (by simp), callers := fun id k hk => ?_,
                      returned := fun id begun floor y lost hk => ?_ }
  · obtain ⟨k0, hk0, hb, hfl, -⟩ := hc hk
    rw [hb, hfl]; exact hbs.callers id k0 hk0
  · obtain ⟨⟨b0, f0, p0⟩, hk0, rfl, rfl, hp⟩ := hc hk
    rcases hp with rfl | hp
    · exact hbs.returned id _ _ y lost hk0
    · cases hp
      obtain ⟨hm, hbr, -⟩ := h.phase _ hf
      have hflr := (h.callers id _ hk0).2
      have ht := h.top
      exact ⟨hm, by simp only at hflr ⊢; omega, le_max_right _ _⟩

end

lemma inv_step (h : Inv s) (hroom : s.core.Room) (hs : step s a = some s') : Inv s' := by
  cases transition_of_step hs with
  | commit => exact h.withMutations _ _ _
  | incr => exact (h.weaken s.core.weakens_bump hroom).withMutations _ _ _
  | inval => exact (h.weaken s.core.weakens_invalidate hroom).withMutations _ _ _
  | begin => exact h.setCall UInt64.le_rfl le_rfl (by simp)
  | get hk => exact h.afterGet hroom hk
  | @enter id begun floor hk =>
    have hb := h.callers id _ hk
    have hc : Inv (s.setCall id ⟨begun, floor, .waiting⟩) := h.setCall hb.1 hb.2 (by simp)
    rcases hf : s.flight with _ | f
    · exact hc.setFlight trivial
    · exact hc.setFlight (h.phase f hf)
  | fly hm _ hs => exact h.fly hroom hm hs
  | versionRead hf => exact h.versionRead hf
  | release hf => exact h.release hf

/-! ### Along a run -/

/-- What no step takes back: compiled snapshots, the latest returned one, and the calls with the
state they began in. The counters go on by one at most. -/
structure Extends (s s' : State) : Prop where
  hist : ∀ x ∈ s.hist, x ∈ s'.hist
  top : s.top ≤ s'.top
  calls : ∀ id k, s.calls id = some k → ∃ k', s'.calls id = some k' ∧ k'.floor = k.floor
  count : s'.core.count ≤ s.core.count + 1

lemma Extends.of_same (hh : s'.hist = s.hist) (ht : s'.top = s.top) (hc : s'.calls = s.calls)
    (hct : s'.core.count ≤ s.core.count + 1) : Extends s s' :=
  ⟨fun _ hx => hh ▸ hx, ht.ge, fun _ k hk => ⟨k, hc ▸ hk, rfl⟩, hct⟩

lemma Extends.refl (s : State) : Extends s s := .of_same rfl rfl rfl (Nat.le_succ _)

lemma extends_setCall {core top} (flight : Option (Flight Snap Outcome)) (ht : s.top ≤ top)
    (hk : ∀ k0, s.calls id = some k0 → k.floor = k0.floor) (hct : core.count ≤ s.core.count + 1) :
    Extends s { s.setCall id k with core, top, flight } := by
  refine ⟨fun _ hx => hx, ht, fun i k0 hi => ?_, hct⟩
  by_cases hid : i = id
  · subst hid
    exact ⟨k, Function.update_self .., hk k0 hi⟩
  · exact ⟨k0, (Function.update_of_ne hid ..).trans hi, rfl⟩

lemma Outcome.le_top (o : Outcome) (top : ℕ) : top ≤ o.top top := by
  cases o with
  | snapshot x lost => exact le_max_left _ _
  | failed => exact le_rfl

lemma Caller.release_floor (o : Outcome) (k : Caller) : (k.release o).floor = k.floor := by
  unfold Caller.release
  split <;> rfl

lemma extends_step (hs : step s a = some s') : Extends s s' := by
  have hsame : s.core.count ≤ s.core.count + 1 := Nat.le_succ _
  cases transition_of_step hs with
  | commit => exact .of_same rfl rfl rfl hsame
  | incr => exact .of_same rfl rfl rfl s.core.weakens_bump.count_le
  | inval => exact .of_same rfl rfl rfl s.core.weakens_invalidate.count_le
  | begin hid => exact extends_setCall s.flight le_rfl (by simp [hid]) hsame
  | @get id now begun floor p hk =>
    have hct := (s.core.getStep_spec (expiredAt now) p).1.count_le
    have hf : ∀ k0, s.calls id = some k0 → floor = k0.floor := fun k0 hk0 => by
      rw [hk] at hk0; cases hk0; rfl
    rcases (s.core.getStep (expiredAt now) p).2 with p' | x | _
    · exact extends_setCall s.flight le_rfl hf hct
    · exact extends_setCall s.flight (le_max_left _ _) hf hct
    · exact extends_setCall s.flight le_rfl hf hct
  | enter hk =>
    exact extends_setCall _ le_rfl (fun k0 hk0 => by rw [hk] at hk0; cases hk0; rfl) hsame
  | fly _ _ hs =>
    obtain ⟨fl, c, fl', -, hn, rfl⟩ := fly_eq_some.1 hs
    exact .of_same rfl rfl rfl (Flight.count_next hn)
  | versionRead =>
    exact ⟨fun _ hx => mem_append_left _ hx, le_rfl, fun _ k hk => ⟨k, hk, rfl⟩, hsame⟩
  | release =>
    refine ⟨fun _ hx => hx, Outcome.le_top _ _, fun id k hk => ?_, hsame⟩
    exact ⟨_, congrArg (Option.map (Caller.release _)) hk, Caller.release_floor _ k⟩

/-- In a run of fewer than `2 ^ 64` events no counter comes round. -/
lemma meets_room {acts} (hlen : acts.length < UInt64.size) :
    Runs.Meets step (fun s _ => s.core.Room) init acts := by
  refine Runs.meets_of_count (f := fun s : State => s.core.count)
    (fun _ _ _ hs => (extends_step hs).count) ?_
  have hc : init.core.count = 0 := rfl
  omega

end Zecurity.SnapshotCache
