import Zecurity.SnapshotCache

/-!
What a call of `GetOrCompile` sees of the invalidations before it.

The slot always holds a snapshot of the current epoch, and a flight that still has to compare
epochs answers with one of the epoch at the comparison.
-/

namespace Zecurity.SnapshotCache

open EpochCache

/-- **Read your invalidation.** What a call returns was compiled from an epoch captured after
every invalidation that was done when the call began, unless its flight lost the comparison
`maxCompileRetries` times. -/
def ReadsInvalidations (s : State) : Prop :=
  ∀ id begun floor x, s.calls id = some ⟨begun, floor, .returned (.snapshot x false)⟩ →
    begun ≤ x.observed

/-- The condition on a step: a call that joins a flight whose function has returned began
before any later invalidation than the flight's snapshot has seen. -/
def JoinsCurrent (s : State) : Action → Prop
  | .enter id => ∀ k attempt x, s.calls id = some k →
      s.flight = some ⟨attempt, .finished (.snapshot x false)⟩ → k.begun ≤ x.observed
  | _ => True

/-- The same of the calls that wait for a finished flight. -/
structure Recent (s : State) : Prop where
  returned : ReadsInvalidations s
  waiting : ∀ id begun floor attempt x, s.calls id = some ⟨begun, floor, .waiting⟩ →
    s.flight = some ⟨attempt, .finished (.snapshot x false)⟩ → begun ≤ x.observed

variable {s : State} {m : Move Snap}

lemma Recent.setFlight (h : Recent s) (core : Core Snap) (hist : List Snap) {f}
    (hf : ∀ x, f.phase ≠ .finished (.snapshot x false)) :
    Recent { s with core, hist, flight := some f } where
  returned := h.returned
  waiting := fun _ _ _ _ x _ hfl => by
    cases hfl
    exact absurd rfl (hf x)

variable {id : CallId} {k : Caller} {s' : State}

lemma Recent.setCall (h : Recent s) (top : ℕ) (core : Core Snap)
    (hr : ∀ x, k.phase = .returned (.snapshot x false) → k.begun ≤ x.observed)
    (hw : ∀ att x, k.phase = .waiting → s.flight = some ⟨att, .finished (.snapshot x false)⟩ →
      k.begun ≤ x.observed) :
    Recent (State.setCall { s with top, core } id k) := by
  constructor
  · intro i begun floor x hk
    rcases Runs.update_apply_eq_iff.1 hk with ⟨-, ⟨⟩⟩ | ⟨-, hk⟩
    · exact hr x rfl
    · exact h.returned i begun floor x hk
  · intro i begun floor att x hk hf
    rcases Runs.update_apply_eq_iff.1 hk with ⟨-, ⟨⟩⟩ | ⟨-, hk⟩
    · exact hw att x rfl hf
    · exact h.waiting i begun floor att x hk hf

lemma Recent.afterGet (h : Recent s) (hi : Inv s) (hk : s.calls id = some k) {now p} :
    Recent ({ s with core := (s.core.getStep (expiredAt now) p).1 }.afterGet id k
      (s.core.getStep (expiredAt now) p).2) := by
  obtain ⟨-, hh⟩ := s.core.getStep_spec (expiredAt now) p
  rcases hr : (s.core.getStep (expiredAt now) p).2 with p' | x | _
  · exact h.setCall _ _ (by simp) (by simp)
  · -- the slot's snapshot is of the current epoch
    have ho := (hi.slot x (hh x hr).2).2.1
    refine h.setCall _ _ (fun y hy => ?_) (by simp)
    cases hy
    exact ho ▸ (hi.callers id k hk).1
  · exact h.setCall _ _ (by simp) (by simp)

lemma Recent.fly (h : Recent s) (hi : Inv s) (hs : s.fly m = some s') : Recent s' := by
  obtain ⟨fl, c, fl', hf, hn, rfl⟩ := fly_eq_some.1 hs
  have hp := hi.phase fl hf
  revert hn
  fun_cases Flight.next compileFn s.core s.committed fl m <;> rintro ⟨⟩
  · exact h.setFlight _ s.hist (by simp)
  · exact h.setFlight _ s.hist (by simp)
  · exact h.setFlight _ s.hist (by simp [compileFn])
  · exact h.setFlight _ s.hist (by simp)
  · next x hph =>
    -- the comparison holds at the current epoch, which no caller began after
    rw [hph] at hp
    refine ⟨h.returned, fun id begun floor n y hk hfl => ?_⟩
    cases hfl
    rw [hp.2.2.1]
    exact (hi.callers id _ hk).1
  · exact h.setFlight _ s.hist (by simp)
  · next expired last p hph =>
    rw [hph] at hp
    refine h.setFlight _ s.hist fun x => ?_
    rcases hr : (s.core.getStep expired p).2 with p' | y | _
    · simp [Flight.afterReget]
    · exact absurd (hp.2.2.symm.trans ((s.core.getStep_spec expired p).2 y hr).2) (by simp)
    · simp only [Flight.afterReget]
      split <;> simp [compileFn]

lemma Recent.release (h : Recent s) {att top o} (hf : s.flight = some ⟨att, .finished o⟩) :
    Recent { s with
      flight := none
      calls := fun id => (s.calls id).map (Caller.release o)
      top } := by
  refine ⟨fun id begun floor x hk => ?_, by simp⟩
  obtain ⟨⟨b, f, p⟩, hk0, hr⟩ := Option.map_eq_some_iff.1 hk
  unfold Caller.release at hr
  split at hr
  · next hp =>
    cases hr
    cases hp
    exact h.waiting id _ _ att x hk0 hf
  · cases hr
    exact h.returned id _ _ x hk0

lemma recent_step {s a} (hinv : Inv s) (h : Recent s) (hok : JoinsCurrent s a)
    (hs : step s a = some s') : Recent s' := by
  cases transition_of_step hs with
  | commit | incr | inval => exact ⟨h.returned, h.waiting⟩
  | begin => exact h.setCall s.top s.core (by simp) (by simp)
  | get hk => exact h.afterGet hinv hk
  | @enter id begun floor hk =>
    have hc : Recent (s.setCall id ⟨begun, floor, .waiting⟩) :=
      h.setCall s.top s.core (by simp) fun n x _ hfl =>
        hok ⟨begun, floor, .missed⟩ n x hk hfl
    rcases hf : s.flight with _ | f
    · exact hc.setFlight s.core s.hist (by simp)
    · exact ⟨hc.returned, fun i b fl n x hi hfl => hc.waiting i b fl n x hi
        (by rw [← hfl]; simpa [State.setCall] using hf)⟩
  | fly _ _ hs => exact h.fly hinv hs
  | versionRead => exact h.setFlight s.core _ (by simp)
  | release hf => exact h.release hf

lemma recent_init : Recent init where
  returned := nofun
  waiting := nofun

/-- **Read your invalidation**, in every run of fewer than `2 ^ 64` events whose joins are
current. -/
theorem readsInvalidations_of_joinsCurrent (acts : List Action) (s : State)
    (hlen : acts.length < UInt64.size) (hmeets : Runs.Meets step JoinsCurrent init acts)
    (hexec : Runs.exec step init acts = some s) : ReadsInvalidations s := by
  have hb : Inv s ∧ Recent s := Runs.exec_inv_of_meets (I := fun s => Inv s ∧ Recent s)
      (fun _ _ _ h hok hs => ⟨inv_step h.1 hok.2 hs, recent_step h.1 h.2 hok.1 hs⟩)
      ⟨inv_init, recent_init⟩ (hmeets.and (meets_room hlen)) hexec
  exact hb.2.returned

/-- A call that begins after an invalidation and compiles for itself. -/
def ownFlight : List Action :=
  [Action.commit 0, .incr 0, .inval 0, .begin 0, .get 0 0] ++
    Action.enter 0 :: (oneCompile ++ [Action.release])

lemma ownFlight_joinsCurrent : Runs.Meets step JoinsCurrent init ownFlight := by
  refine .append (.of_forall (by simp [JoinsCurrent]) _) rfl (.cons rfl ?_ (.of_forall ?_ _))
  · intro k n x _ hf
    cases hf
  · intro a ha s
    simp only [oneCompile, List.cons_append, List.mem_cons, List.mem_append, List.mem_replicate,
      List.not_mem_nil, or_false] at ha
    rcases ha with rfl | (⟨-, rfl⟩ | rfl | rfl) | rfl <;> trivial

theorem readsInvalidations_own_flight :
    ∃ s, Runs.exec step init ownFlight = some s ∧
      s.calls 0 = some ⟨1, 0, .returned (.snapshot ⟨⟨List.replicate 8 [0], 1⟩, 0, 1, 0⟩ false)⟩ ∧
      ReadsInvalidations s := by
  obtain ⟨s, he, hc⟩ : ∃ s, Runs.exec step init ownFlight = some s ∧ s.calls 0 =
      some ⟨1, 0, .returned (.snapshot ⟨⟨List.replicate 8 [0], 1⟩, 0, 1, 0⟩ false)⟩ := by
    decide +kernel
  exact ⟨s, he, hc, readsInvalidations_of_joinsCurrent _ s (by decide) ownFlight_joinsCurrent he⟩

/-- The flight of call 0 has stored its snapshot and not released the key. A mutation is
committed, counted and invalidated; call 1 begins, misses, joins the flight and gets the
snapshot of epoch 0, none of whose reads saw the mutation. -/
def joinReturnedFlight : List Action :=
  [Action.begin 0, .get 0 0, .enter 0] ++ oneCompile ++
    [Action.commit 0, .incr 0, .inval 0, .begin 1, .get 1 0, .enter 1, .release]

theorem join_of_returned_flight :
    ∃ s, Runs.exec step init joinReturnedFlight = some s ∧
      s.calls 1 = some ⟨1, 0, .returned (.snapshot ⟨⟨List.replicate 8 [], 0⟩, 0, 0, 0⟩ false)⟩ ∧
      ¬ ReadsInvalidations s := by
  obtain ⟨s, he, hc⟩ : ∃ s, Runs.exec step init joinReturnedFlight = some s ∧ s.calls 1 =
      some ⟨1, 0, .returned (.snapshot ⟨⟨List.replicate 8 [], 0⟩, 0, 0, 0⟩ false)⟩ := by
    decide +kernel
  exact ⟨s, he, hc, fun h => absurd (h 1 1 0 _ hc) (by decide)⟩

end Zecurity.SnapshotCache
