import Mathlib.Data.List.Induction
import Zecurity.Authorization

/-!
The published deadline over whole runs of the tracker.
-/

namespace Zecurity.Authorization

/-- The run `ops` has a call `on_ack(k, true, _)` that returned `Ok`, and the request it
acknowledged was recorded as sent at `s`. -/
def Accepts (H : Duration) (ops : List Op) (k : UInt64) (s : Instant) : Prop :=
  ∃ pre now post, ops = pre ++ Op.onAck k true now :: post ∧
    ((run (new H) pre).onAck k true now).2 = .ok () ∧ (run (new H) pre).sentAt k = some s

variable {H : Duration} {ops : List Op} {s d now : Instant} {target : ServingState}

lemma Accepts.append {k} (h : Accepts H ops k s) (ops' : List Op) :
    Accepts H (ops ++ ops') k s := by
  obtain ⟨pre, now, post, rfl, hok, hs⟩ := h
  exact ⟨pre, now, post ++ ops', by simp, hok, hs⟩

/-- The call is an `on_ack` that returns `Ok`. -/
def Accepted (t : AckTracker) : Op → Prop
  | .onAck seq capable now => (t.onAck seq capable now).2 = .ok ()
  | _ => False

/-- **The invariant.** `A` holds of the instants at which the accepted requests were sent.
What is published is current; a closed state has no deadline; a terminal signal has closed
the state for good; and an open state has the deadline of an accepted request that was sent
no earlier than the last loss of authorization. -/
structure Safe (A : Instant → Prop) (t : AckTracker) : Prop where
  pub : t.publish = t.snapshot
  closed : t.state.isOpen = false → t.deadline = none
  term : t.terminal.isSome → t.state.isTerminal
  anchor : t.state.isOpen → ∃ s, A s ∧ t.deadline = some (s + t.freshness) ∧
    ∀ l, t.lostAt = some l → l ≤ s

/-! ### The invariant -/

variable {A : Instant → Prop} {t : AckTracker}

lemma safe_new (H : Duration) : Safe A (new H) :=
  ⟨rfl, fun _ => rfl, by simp [new], by simp [new, ServingState.isOpen]⟩

lemma Safe.mono {A' : Instant → Prop} (h : Safe A t) (hA : ∀ s, A s → A' s) : Safe A' t := by
  refine { h with anchor := fun ho => ?_ }
  obtain ⟨s, hs, hd, hl⟩ := h.anchor ho
  exact ⟨s, hA s hs, hd, hl⟩

lemma Safe.terminal_none (h : Safe A t) (ho : t.state.isTerminal = false) : t.terminal = none := by
  rcases ht : t.terminal with _ | sig
  · rfl
  · have := h.term (by simp [ht])
    simp [ho] at this

lemma safe_transition_closed (hc : target.isOpen = false)
    (ht : t.terminal = none ∨ target.isTerminal) : Safe A (t.transition target) where
  pub := rfl
  closed := fun _ => by simp [AckTracker.transition, hc]
  term := fun hs => ht.resolve_left fun hn => by
    simp [AckTracker.transition, hn] at hs
  anchor := fun ho => by simp [AckTracker.transition, hc] at ho

lemma isTerminal_of_isOpen {s : ServingState} (h : s.isOpen = true) : s.isTerminal = false := by
  cases s <;> simp_all [ServingState.isOpen, ServingState.isTerminal]

lemma safe_expire (h : Safe A t) (now : Instant) : Safe A (t.expire now) := by
  rcases t.expire_cases now with he | ⟨d, ho, -, -, he⟩
  · rw [he]; exact h
  · rw [he]
    exact safe_transition_closed rfl (.inl (h.terminal_none (isTerminal_of_isOpen ho)))

lemma safe_streamDown (h : Safe A t) (now : Instant) : Safe A (t.streamDown now) := by
  have he := safe_expire h now
  rcases t.streamDown_cases now with heq | ⟨hs, heq⟩ | ⟨hs, heq⟩
  · rw [heq]; exact he
  · -- still open: the deadline and the loss are those of before
    rw [heq]
    have hn := he.terminal_none (by simp [hs, ServingState.isTerminal])
    refine ⟨rfl, by simp [AckTracker.transition, ServingState.isOpen], ?_, fun _ => ?_⟩
    · rw [AckTracker.transition, hn]; simp
    · obtain ⟨s, hA, hd, hl⟩ := he.anchor (by simp [hs, ServingState.isOpen])
      exact ⟨s, hA, by simpa [AckTracker.transition, ServingState.isOpen] using hd, hl⟩
  · rw [heq]
    have hn := he.terminal_none (by simp [hs, ServingState.isTerminal])
    exact safe_transition_closed rfl (.inl hn)

lemma safe_accept (h : Safe A t) {seq} (hA : A s) (ht : t.terminal = none)
    (hl : ∀ l, t.lostAt = some l → l ≤ s) : Safe A (t.accept seq s) := by
  refine ⟨rfl, by simp [AckTracker.accept, AckTracker.transition, ServingState.isOpen], ?_,
    fun _ => ?_⟩
  · simp [AckTracker.accept, AckTracker.transition, ht]
  · simp only [AckTracker.accept, AckTracker.transition, ServingState.isOpen, if_true]
    by_cases ho : t.state.isOpen = true
    · obtain ⟨s', hA', hd', hl'⟩ := h.anchor ho
      grind
    · refine ⟨s, hA, ?_, hl⟩
      rw [h.closed (by simpa using ho)]; rfl

/-- **One call keeps the invariant**; only an accepted `on_ack` adds an accepted request. -/
lemma safe_step (h : Safe A t) (op : Op)
    (ha : ∀ k now s, op = .onAck k true now → (t.onAck k true now).2 = .ok () →
      t.sentAt k = some s → A s) : Safe A (step t op) := by
  cases op with
  | nextSeq => exact { h with }
  | seqForReplacement =>
    rw [step, t.seqForReplacement_eq]
    exact { h with }
  | recordSent seq now =>
    rw [step, t.recordSent_eq]
    exact { h with }
  | onAck seq cap now =>
    have he := safe_expire h now
    simp only [step]
    rcases t.onAck_cases seq cap now with ⟨why, hr⟩ | ⟨s, hr, ht, rfl, hs, -, hl⟩
    · rw [hr]; exact he
    · have hA := ha seq now s rfl (by rw [hr]) hs
      rw [hr]
      exact safe_accept he hA (by simpa using ht) hl
  | streamUp now =>
    have he := safe_expire h now
    rcases t.streamUp_cases now with heq | ⟨hd, heq⟩ <;> rw [step, heq]
    · exact he
    · have hn := he.terminal_none (by simp [hd, ServingState.isTerminal])
      exact safe_transition_closed rfl (.inl hn)
  | streamDown now => exact safe_streamDown h now
  | expire now => exact safe_expire h now
  | onTerminal signal =>
    rcases t.onTerminal_cases signal with ⟨-, heq⟩ | ⟨target, hc, ht, heq⟩ <;>
      rw [step, heq]
    · exact h
    · exact safe_transition_closed hc (.inr ht)

/-- **Every run keeps the invariant**, for the accepted requests of the run. -/
lemma safe_run (H : Duration) (ops : List Op) :
    Safe (fun s => ∃ k, Accepts H ops k s) (run (new H) ops) := by
  induction ops using List.reverseRecOn with
  | nil => exact safe_new H
  | append_singleton ops op ih =>
    rw [run_append, run_cons, run_nil]
    refine safe_step (ih.mono fun s ⟨k, hk⟩ => ⟨k, hk.append [op]⟩) op ?_
    rintro k now s rfl hok hs
    exact ⟨k, ops, now, [], rfl, hok, hs⟩

/-! ### Terminal signals, `H` and the deadline under one call -/

lemma step_freshness (t : AckTracker) (op : Op) : (step t op).freshness = t.freshness := by
  refine step_rule (P := fun u => u.freshness = t.freshness) op rfl ?_ ?_ ?_ ?_ ?_ ?_
  · exact fun _ _ h => h
  · exact fun _ _ h => h
  · exact fun _ _ h => h
  · exact fun _ _ h => h
  · intro seq now _
    rw [t.recordSent_eq]
  · exact fun _ _ _ _ _ _ _ h => h

lemma step_terminal (op : Op) (h : t.terminal.isSome) : (step t op).terminal.isSome := by
  refine step_rule (P := fun u => u.terminal.isSome) op h ?_ ?_ ?_ ?_ ?_ ?_
  · exact fun _ _ h => h
  · exact fun _ _ h => h
  · exact fun _ _ _ => rfl
  · exact fun _ _ h => h
  · intro seq now _
    rw [t.recordSent_eq]
    exact h
  · exact fun _ _ _ _ _ _ _ h => h

lemma run_freshness (t : AckTracker) (ops : List Op) : (run t ops).freshness = t.freshness := by
  induction ops generalizing t with
  | nil => rfl
  | cons op ops ih => rw [run_cons, ih, step_freshness]

lemma run_terminal (ops : List Op) : ∀ {t : AckTracker}, t.terminal.isSome →
    (run t ops).terminal.isSome := by
  induction ops with
  | nil => exact id
  | cons op ops ih => exact fun h => ih (step_terminal op h)

lemma terminal_of_mem {signal : TerminalSignal} (h : Op.onTerminal signal ∈ ops) (t : AckTracker) :
    (run t ops).terminal.isSome := by
  obtain ⟨pre, post, rfl⟩ := List.append_of_mem h
  rw [run_append, run_cons]
  refine run_terminal post ?_
  rw [step]
  rcases (run t pre).onTerminal_cases signal with ⟨hs, he⟩ | ⟨_, -, -, he⟩
  · rw [he]; exact hs
  · simp [he, AckTracker.transition]

lemma transition_deadline (h : (t.transition target).deadline = some d) : t.deadline = some d := by
  simp only [AckTracker.transition] at h
  split at h
  · exact h
  · cases h

lemma expire_deadline (h : (t.expire now).deadline = some d) : t.deadline = some d := by
  rcases t.expire_cases now with he | ⟨_, -, -, -, he⟩
  · rwa [he] at h
  · rw [he] at h; exact transition_deadline h

lemma step_deadline {op : Op} (hn : ¬ Accepted t op) (h : (step t op).deadline = some d) :
    t.deadline = some d := by
  revert h
  refine step_rule (P := fun u => u.deadline = some d → t.deadline = some d) op id ?_ ?_ ?_ ?_ ?_ ?_
  · exact fun _ _ h => h
  · exact fun _ _ h => h
  · exact fun _ _ h => h
  · exact fun _ _ h hd => h (transition_deadline hd)
  · intro seq now _
    rw [t.recordSent_eq]
    exact id
  · rintro seq cap now s u rfl hok
    exact absurd hok hn

/-! ### The gate over whole runs -/

lemma admits_run (h : (run (new H) ops).publish.admits now) :
    (∀ signal, Op.onTerminal signal ∉ ops) ∧ ∃ k s, Accepts H ops k s ∧ now < s + H ∧
      ∀ l, (run (new H) ops).lostAt = some l → l ≤ s := by
  have hs := safe_run H ops
  rw [hs.pub] at h
  simp only [AuthzSnapshot.admits, AckTracker.snapshot, Bool.and_eq_true] at h
  obtain ⟨ho, hdl⟩ := h
  refine ⟨fun signal hm => ?_, ?_⟩
  · have hn := hs.terminal_none (isTerminal_of_isOpen ho)
    have hsm := terminal_of_mem hm (new H)
    simp [hn] at hsm
  · obtain ⟨s, ⟨k, hk⟩, hd, hl⟩ := hs.anchor ho
    rw [hd, run_freshness] at hdl
    exact ⟨k, s, hk, by simpa [new] using hdl, hl⟩

/-- **Deadline safety.** In every run from `new(H)`: a gate that admits `now` stands on an
accepted acknowledgement of a request sent less than `H` before `now` and not before the
last loss, with no terminal signal in the run; every further call that is not an accepted
acknowledgement keeps the published deadline or drops it; and a run with a terminal signal
never admits again. -/
theorem published_deadline_safe (H : Duration) (ops : List Op) :
    (∀ now, (run (new H) ops).publish.admits now →
      (∀ signal, Op.onTerminal signal ∉ ops) ∧ ∃ k s, Accepts H ops k s ∧ now < s + H ∧
        ∀ l, (run (new H) ops).lostAt = some l → l ≤ s) ∧
    (∀ op, ¬ Accepted (run (new H) ops) op → ∀ d,
      (step (run (new H) ops) op).publish.deadline = some d →
        (run (new H) ops).publish.deadline = some d) ∧
    (∀ signal, Op.onTerminal signal ∈ ops → ∀ later now,
      (run (new H) (ops ++ later)).publish.admits now = false) := by
  refine ⟨fun now h => admits_run h, fun op hnot d h => ?_, fun signal hm later now => ?_⟩
  · have hn := safe_run H (ops ++ [op])
    rw [run_append, run_cons, run_nil] at hn
    rw [hn.pub] at h
    rw [(safe_run H ops).pub]
    exact step_deadline hnot h
  · by_contra ha
    exact (admits_run (by simpa using ha)).1 signal (List.mem_append_left later hm)

/-- A report sent at 0 and acknowledged at 3 opens the gate until 15; expiry then closes it,
and a revocation closes it for good. -/
theorem published_deadline_safe_acknowledged :
    let ops : List Op := [.nextSeq, .recordSent 1 0, .onAck 1 true 3]
    (run (new 15) ops).publish.admits 14 = true ∧
    (∃ k s, Accepts 15 ops k s ∧ 14 < s + 15 ∧
      ∀ l, (run (new 15) ops).lostAt = some l → l ≤ s) ∧
    (run (new 15) ops).publish.deadline = some 15 ∧
    (run (new 15) (ops ++ [Op.onTerminal .revoked] ++ [Op.streamUp 4])).publish.admits 4 =
      false := by
  intro ops
  have ha : (run (new 15) ops).publish.admits 14 = true := by decide
  refine ⟨ha, ((published_deadline_safe 15 _).1 14 ha).2,
    (published_deadline_safe 15 _).2.1 (.streamDown 5) id 15 (by decide), ?_⟩
  exact (published_deadline_safe 15 _).2.2 .revoked (by simp) [.streamUp 4] 4

end Zecurity.Authorization
