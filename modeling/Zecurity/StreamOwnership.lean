import Zecurity.ConnectorRegistry

/-!
Which stream of a connector the registry names, over every sequence of activations and
retirements.

The entry is the latest unretired stream, or empty. It is emptied, and the row marked
disconnected, when the stream in it is retired: an older stream that is still there is not put
back.
-/

namespace Zecurity.ConnectorRegistry

open ConnectorRow List

structure State where
  db : Db
  registry : Registry
  /-- the activated streams that are not retired, the latest first (ghost) -/
  unretired : List StreamId
  opened : List StreamId

def init (db : Db) : State := ⟨db, .new, [], []⟩

inductive Action
  | activate (c : StreamId) (call lookup : Call)
  | retire (c : StreamId) (call : Call)

/-- The calls for the connector `id`. A stream is activated once; it is retired once, if it
was registered. -/
def step (id : ConnectorId) (s : State) : Action → Option State
  | .activate c call lookup =>
    if c ∈ s.opened then none
    else
      let r := activateStream s.db s.registry id c call lookup
      some {
        db := r.1
        registry := r.2.1
        unretired := if r.2.2.isOk then c :: s.unretired else s.unretired
        opened := c :: s.opened }
  | .retire c call =>
    if c ∈ s.unretired then
      let r := retireStream s.db s.registry id c call
      some { s with db := r.1, registry := r.2.1, unretired := s.unretired.erase c }
    else none

variable {id : ConnectorId}

/-- While a stream is unretired, the registry names the latest of them. -/
def Owns (id : ConnectorId) (s : State) : Prop :=
  s.unretired ≠ [] → s.registry.get id = s.unretired.head?

def Disconnected (db : Db) : Prop := db.row.map Row.status = some .disconnected

/-- If the step sets the row to `disconnected`, it retires the last unretired stream. -/
def DisconnectsLast (s : State) (a : Action) (s' : State) : Prop :=
  ¬ Disconnected s.db → Disconnected s'.db →
    (∃ c call, a = .retire c call ∧ s.unretired = [c]) ∧ s'.unretired = []

/-- **Ownership and disconnect**, at every step of the run. -/
def Owned (id : ConnectorId) (db : Db) (acts : List Action) : Prop :=
  Runs.Always (step id) (fun s a s' => Owns id s' ∧ DisconnectsLast s a s') (init db) acts

/-- The condition on a step: the stream that the registry names is retired only as the last
unretired one. -/
def RetiresInOrder (id : ConnectorId) (s : State) : Action → Prop
  | .activate _ _ _ => True
  | .retire c _ => s.registry.get id = some c → s.unretired = [c]

/-! ### The invariant -/

/-- `live` has the unretired streams, and the entry of `clients` is the latest of them or
empty. -/
structure Inv (id : ConnectorId) (s : State) : Prop where
  nodup : s.unretired.Nodup
  opened : ∀ c ∈ s.unretired, c ∈ s.opened
  live : s.registry.liveSet id = s.unretired.toFinset
  current : s.registry.get id = none ∨ s.registry.get id = s.unretired.head?

lemma inv_init (db : Db) : Inv id (init db) where
  nodup := nodup_nil
  opened := by simp [init]
  live := rfl
  current := .inl rfl

variable {s s' : State}

lemma head?_erase_of_ne {l : List StreamId} {c : StreamId} (h : l.head? ≠ some c) :
    (l.erase c).head? = l.head? := by
  cases l with
  | nil => rfl
  | cons a l =>
    have hne : a ≠ c := by simpa using h
    simp [hne]

lemma get_retire (c : StreamId) (call : Call) :
    (retireStream s.db s.registry id c call).2.1.get id =
      if s.registry.get id = some c then none else s.registry.get id := by
  rw [retireStream_registry, Registry.get_removeIfCurrent, Registry.get_untrackLive]

variable {a : Action}

lemma inv_step (h : Inv id s) (hs : step id s a = some s') : Inv id s' := by
  cases a with
  | activate c call lookup =>
    dsimp only [step] at hs
    split at hs
    · cases hs
    next hn =>
    cases hs
    have hc : c ∉ s.unretired := fun hm => hn (h.opened c hm)
    by_cases hok : (activateStream s.db s.registry id c call lookup).2.2.isOk
    · simp only [activateStream_registry, hok, if_true]
      refine ⟨nodup_cons.2 ⟨hc, h.nodup⟩, fun i hi => ?_, ?_, .inr ?_⟩
      · rcases mem_cons.1 hi with rfl | hi
        · exact mem_cons_self
        · exact mem_cons_of_mem _ (h.opened i hi)
      · simp [h.live]
      · simp
    · simp only [activateStream_registry, hok]
      exact ⟨h.nodup, fun i hi => mem_cons_of_mem _ (h.opened i hi), h.live, h.current⟩
  | retire c call =>
    dsimp only [step] at hs
    split at hs <;> cases hs
    refine ⟨h.nodup.erase c, fun i hi => h.opened i (mem_of_mem_erase hi), ?_, ?_⟩
    · rw [retireStream_registry, Registry.liveSet_removeIfCurrent, Registry.liveSet_untrackLive,
        h.live]
      ext i
      simp [h.nodup.mem_erase_iff]
    · rw [get_retire]
      split
      · exact .inl rfl
      · next hne =>
        refine h.current.imp_right fun hcur => ?_
        rw [head?_erase_of_ne (hcur ▸ hne)]
        exact hcur

/-! ### In order, and out of order -/

lemma names_step (hn : s.registry.get id = s.unretired.head?) (hok : RetiresInOrder id s a)
    (hs : step id s a = some s') : s'.registry.get id = s'.unretired.head? := by
  cases a <;> dsimp only [step] at hs
  case activate c call lookup =>
    split at hs
    · cases hs
    cases hs
    by_cases hr : (activateStream s.db s.registry id c call lookup).2.2.isOk
    · simp [activateStream_registry, hr]
    · simp [activateStream_registry, hr, hn]
  case retire c call =>
    split at hs <;> cases hs
    rw [get_retire]
    split
    · next hc => simp [hok hc]
    · next hne => rw [head?_erase_of_ne (hn ▸ hne), hn]

lemma disconnected_of_activate {db call} (h : Disconnected (db.exec .activate call).1) :
    Disconnected db := by
  have hr : Disconnected (db.run .activate).1 → Disconnected db := by
    unfold Db.run
    intro h
    split at h
    · exact h
    · split at h
      · simp [Disconnected, Db.set, Statement.apply] at h
      · exact h
  rcases call with _ | _ | _
  · exact hr h
  · exact h
  · exact hr h

lemma disconnectsLast_step (hok : RetiresInOrder id s a) (hs : step id s a = some s') :
    DisconnectsLast s a s' := by
  intro hb ha
  cases a <;> dsimp only [step] at hs
  case activate c call lookup =>
    split at hs
    · cases hs
    cases hs
    exact absurd (disconnected_of_activate ha) hb
  case retire c call =>
    split at hs <;> cases hs
    rw [retireStream_db] at ha
    split at ha
    · next hc =>
      have hl := hok hc
      exact ⟨⟨c, call, rfl, hl⟩, by simp [hl]⟩
    · exact absurd ha hb

lemma retiresInOrder_of_owns (h : Inv id s) (hown : ∀ s', step id s a = some s' → Owns id s') :
    RetiresInOrder id s a := by
  cases a with
  | activate c call lookup => trivial
  | retire c call =>
    intro hc
    have hh : s.unretired.head? = some c := by
      rcases h.current with hn | hh
      · rw [hc] at hn
        cases hn
      · rw [← hh, hc]
    obtain ⟨rest, hr⟩ : ∃ rest, s.unretired = c :: rest := ⟨_, eq_cons_of_mem_head? hh⟩
    have ho := hown { s with
      db := (retireStream s.db s.registry id c call).1
      registry := (retireStream s.db s.registry id c call).2.1
      unretired := s.unretired.erase c } (by simp [step, hr])
    have he : rest = [] := by
      by_contra hne
      have hg := ho (by simpa [hr] using hne)
      simp only [get_retire, hc, if_true, hr, erase_cons_head] at hg
      exact hne (List.head?_eq_none_iff.1 hg.symm)
    rw [hr, he]

/-- **The registry names the latest unretired stream, and only the last retirement
disconnects**, throughout a run exactly if the current stream is only ever retired as the last
one. -/
theorem owned_iff_retiresInOrder (id : ConnectorId) (db : Db) (acts : List Action) :
    Owned id db acts ↔ Runs.Meets (step id) (RetiresInOrder id) (init db) acts := by
  constructor
  · intro ho
    refine Runs.meets_iff.2 fun pre a post s heq hp => ?_
    have hi : Inv id s := Runs.exec_inv (fun _ _ _ h hs => inv_step h hs) (inv_init db) hp
    exact retiresInOrder_of_owns hi fun s' hs => (ho pre a post s s' heq hp hs).1
  · intro hm
    refine Runs.always_of_meets (I := fun s => s.registry.get id = s.unretired.head?)
      (fun _ _ _ hn hok hs => names_step hn hok hs) (fun s a s' hn hok hs => ?_) rfl hm
    exact ⟨fun _ => names_step hn hok hs, disconnectsLast_step hok hs⟩

/-- A renewal opens stream 1 beside stream 0; the replacement ends first. -/
def replacementRetiredFirst : List Action :=
  [.activate 0 .ok .ok, .activate 1 .ok .ok, .retire 1 .ok]

/-- The row is disconnected and the registry empty, with stream 0 unretired. -/
theorem replacement_retired_first :
    ¬ Owned "conn-a" ⟨some ⟨.disconnected, false⟩, false⟩ replacementRetiredFirst := by
  intro ho
  have hl := ho (replacementRetiredFirst.take 2) (.retire 1 .ok) [] _ _ rfl rfl rfl
  have hg := hl.1 (by decide)
  revert hg
  decide

end Zecurity.ConnectorRegistry
