import Zecurity.RelayDrain

/-!
The progress of a drain (`drainState` of `controller/internal/providerquery/relays.go`), from the
columns that `DrainRelay`, `ResumeRelay` and `RecordHeartbeat` of `internal/relay` write.

Times are microseconds of the controllers' clocks, which no order of the events ties together.
-/

namespace Zecurity.DrainProgress

open RelayDrain (Status Time)

inductive DrainState
  | migrating
  | unverified
  | streamsOpen
  | drained
deriving DecidableEq

def drainWindow : Time := 120000000

def drainFreshness : Time := 90000000

structure Relay where
  status : Status
  drainStartedAt : Option Time
  attached : ℕ
  connectionCount : ℕ
  connectionCountAt : Option Time

def Relay.drainState (r : Relay) (now : Time) : Option DrainState :=
  r.drainStartedAt.bind fun started =>
    if r.status = .revoked ∨ r.status = .deleted then none
    else if 0 < r.attached then some .migrating
    else if ∀ t ∈ r.connectionCountAt, t + drainFreshness < now then some .unverified
    else if 0 < r.connectionCount then some .streamsOpen
    else if ∃ t ∈ r.connectionCountAt, t < started + drainWindow then some .unverified
    else some .drained

inductive Event
  /-- `DrainRelay`; `last` tells that the relay is the last eligible one -/
  | drain (now : Time) (last : Bool)
  | resume
  | heartbeat (count : ℕ) (measuredAt : Time)
  | place (attached : ℕ)
  | setStatus (status : Status)

/-- `RecordHeartbeat` finds the row, and the count fits its column. -/
def Relay.records (r : Relay) (count : ℕ) : Bool :=
  r.status ≠ .deleted ∧ r.status ≠ .revoked ∧ count < 2147483648

def Relay.after (r : Relay) : Event → Relay
  | .drain now last =>
    if r.status ∈ [.deleted, .revoked, .pending] ∨ r.drainStartedAt.isSome ∨ last then r
    else { r with drainStartedAt := some now }
  | .resume =>
    if r.status ∈ [.deleted, .revoked] then r else { r with drainStartedAt := none }
  | .heartbeat count measuredAt =>
    if r.records count then
      { r with
        status := .active
        connectionCount :=
          if ∀ t ∈ r.connectionCountAt, t ≤ measuredAt then count else r.connectionCount
        connectionCountAt := some (r.connectionCountAt.elim measuredAt (max · measuredAt)) }
    else r
  | .place attached => { r with attached }
  | .setStatus status => { r with status }

/-- A relay that has just been created, after these events. -/
def run (events : List Event) : Relay := events.foldl .after ⟨.pending, none, 0, 0, none⟩

def Recorded (events : List Event) (count : ℕ) (measuredAt : Time) : Prop :=
  ∃ pre, pre ++ [.heartbeat count measuredAt] <+: events ∧ (run pre).records count

/-- The relay has been draining without a break since a drain that started at this time. -/
def DrainingSince (events : List Event) (started : Time) : Prop :=
  ∃ pre last, pre ++ [.drain started last] <+: events ∧ (run pre).drainStartedAt = none ∧
    ∀ mid, pre ++ [.drain started last] <+: mid → mid <+: events →
      (run mid).drainStartedAt = some started

variable {events : List Event} {e : Event} {r : Relay} {count : ℕ} {t : Time}

lemma run_concat (events : List Event) (e : Event) : run (events ++ [e]) = (run events).after e :=
  List.foldl_append

lemma recorded_concat : Recorded (events ++ [e]) count t ↔
    Recorded events count t ∨ e = .heartbeat count t ∧ (run events).records count := by
  constructor
  · rintro ⟨pre, hp, hr⟩
    obtain heq | hp := List.prefix_concat_iff.1 hp
    · obtain ⟨rfl, he⟩ := List.append_inj' heq rfl
      cases he
      exact .inr ⟨rfl, hr⟩
    · exact .inl ⟨pre, hp, hr⟩
  · rintro (⟨pre, hp, hr⟩ | ⟨rfl, hr⟩)
    · exact ⟨pre, hp.trans (List.prefix_append _ _), hr⟩
    · exact ⟨events, List.prefix_rfl, hr⟩

/-- The count is that of a recorded heartbeat, and none was measured later. -/
structure Counted (events : List Event) : Prop where
  recorded : ∀ t, (run events).connectionCountAt = some t →
    Recorded events (run events).connectionCount t
  latest : ∀ count t, Recorded events count t →
    ∃ t', (run events).connectionCountAt = some t' ∧ t ≤ t'

/-- **One event** replaces the count, or it brings none that was measured later. -/
lemma after_count (r : Relay) (e : Event) :
    (∃ count t, e = .heartbeat count t ∧ r.records count ∧ (∀ u ∈ r.connectionCountAt, u ≤ t) ∧
      (r.after e).connectionCount = count ∧ (r.after e).connectionCountAt = some t) ∨
    (∀ count t, e = .heartbeat count t → r.records count → ∃ u ∈ r.connectionCountAt, t ≤ u) ∧
      (r.after e).connectionCount = r.connectionCount ∧
      (r.after e).connectionCountAt = r.connectionCountAt := by
  cases e with
  | heartbeat count t =>
    by_cases hr : r.records count
    · cases hat : r.connectionCountAt with
      | none => simp [Relay.after, hr, hat]
      | some u =>
        by_cases hle : u ≤ t
        · simp [Relay.after, hr, hat, hle]
        · right
          simpa [Relay.after, hr, hat, hle] using (not_le.1 hle).le
    · simp [Relay.after, hr]
  | drain | resume =>
    simp only [Relay.after]
    split_ifs <;> simp
  | _ => simp [Relay.after]

lemma counted (events : List Event) : Counted events := by
  induction events using List.reverseRecOn with
  | nil =>
    refine ⟨nofun, ?_⟩
    rintro count t ⟨pre, hp, -⟩
    simp at hp
  | append_singleton events e ih =>
    obtain ⟨c, u, rfl, hr, hle, hc, hat⟩ | ⟨hold, hc, hat⟩ := after_count (run events) e
    · constructor <;> rw [run_concat, hat]
      · intro t ht
        cases ht
        rw [hc]
        exact recorded_concat.2 (.inr ⟨rfl, hr⟩)
      · intro count t h
        obtain h | ⟨heq, -⟩ := recorded_concat.1 h
        · obtain ⟨u', hu, hlt⟩ := ih.latest count t h
          exact ⟨u, rfl, hlt.trans (hle u' hu)⟩
        · cases heq
          exact ⟨u, rfl, le_rfl⟩
    · constructor <;> rw [run_concat, hat]
      · intro t ht
        rw [hc]
        exact recorded_concat.2 (.inl (ih.recorded t ht))
      · intro count t h
        obtain h | ⟨he, hr⟩ := recorded_concat.1 h
        · exact ih.latest count t h
        · exact hold count t he hr

lemma after_drainStartedAt (h : (r.after e).drainStartedAt = some t) :
    r.drainStartedAt = some t ∨ r.drainStartedAt = none ∧ ∃ last, e = .drain t last := by
  cases e with
  | drain now last =>
    simp only [Relay.after] at h
    split_ifs at h with hr
    · exact .inl h
    · cases h
      exact .inr ⟨by simp_all, last, rfl⟩
  | resume | heartbeat =>
    simp only [Relay.after] at h
    split_ifs at h <;> exact .inl h
  | _ => exact .inl h

lemma drainingSince (h : (run events).drainStartedAt = some t) : DrainingSince events t := by
  induction events using List.reverseRecOn with
  | nil => cases h
  | append_singleton events e ih =>
    have he := h
    rw [run_concat] at h
    obtain h | ⟨hn, last, rfl⟩ := after_drainStartedAt h
    · obtain ⟨pre, last, hp, hn, hmid⟩ := ih h
      refine ⟨pre, last, hp.trans (List.prefix_append _ _), hn, fun mid hm hle => ?_⟩
      obtain rfl | hle := List.prefix_concat_iff.1 hle
      · exact he
      · exact hmid mid hm hle
    · refine ⟨events, last, List.prefix_rfl, hn, fun mid hm hle => ?_⟩
      rw [hle.eq_of_length_le hm.length_le]
      exact he

lemma drainState_eq_drained {now} (h : r.drainState now = some .drained) :
    r.status ≠ .revoked ∧ r.status ≠ .deleted ∧ r.attached = 0 ∧ r.connectionCount = 0 ∧
      ∃ started countAt, r.drainStartedAt = some started ∧ r.connectionCountAt = some countAt ∧
        started + drainWindow ≤ countAt ∧ now ≤ countAt + drainFreshness := by
  obtain ⟨started, hs, h⟩ := Option.bind_eq_some_iff.1 h
  split_ifs at h with hst ha hf hc hw <;> cases h
  cases hat : r.connectionCountAt with
  | none => simp [hat] at hf
  | some countAt =>
    have hw : started + drainWindow ≤ countAt := by simpa [hat] using hw
    have hf : now ≤ countAt + drainFreshness := by simpa [hat] using hf
    exact ⟨fun hr => hst (.inl hr), fun hd => hst (.inr hd), Nat.eq_zero_of_not_pos ha,
      Nat.eq_zero_of_not_pos hc, started, countAt, hs, rfl, hw, hf⟩

/-- **Drained is never reported early.** The relay is draining and carries no connector, and the
latest of all the heartbeats that were recorded, measured once the window of the current drain
had passed, reported no connection. -/
theorem drained_verified (events : List Event) (now : Time)
    (h : (run events).drainState now = some .drained) :
    (run events).status ≠ .revoked ∧ (run events).status ≠ .deleted ∧ (run events).attached = 0 ∧
      ∃ started measuredAt, DrainingSince events started ∧ Recorded events 0 measuredAt ∧
        started + drainWindow ≤ measuredAt ∧ now ≤ measuredAt + drainFreshness ∧
        ∀ count t, Recorded events count t → t ≤ measuredAt := by
  obtain ⟨hr, hd, ha, hc, started, countAt, hs, hat, hw, hf⟩ := drainState_eq_drained h
  have hrec := (counted events).recorded countAt hat
  rw [hc] at hrec
  refine ⟨hr, hd, ha, started, countAt, drainingSince hs, hrec, hw, hf, fun count t ht => ?_⟩
  obtain ⟨t', ht', hle⟩ := (counted events).latest count t ht
  rw [hat] at ht'
  cases ht'
  exact hle

/-- A resume and a second drain in between, and a count from the first drain that arrives late. -/
def redrained : List Event :=
  [.heartbeat 3 1, .drain 5 false, .heartbeat 0 140000000, .resume, .drain 200000000 false,
    .heartbeat 0 330000000, .heartbeat 7 150000000]

theorem drained_redrained : (run redrained).drainState 330000001 = some .drained ∧
    (run redrained).attached = 0 :=
  ⟨by decide, (drained_verified redrained 330000001 (by decide)).2.2.1⟩

end Zecurity.DrainProgress
