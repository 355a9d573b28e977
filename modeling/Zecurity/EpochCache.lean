import Zecurity.Runs

/-!
The snapshot caches of the controller (`cache.go` and `notifier.go` of `controller/internal/policy`
and `controller/internal/transport`), for one workspace: the version counter, the epoch and the
cache slot, and the loop of `GetOrCompile`.

A compile is its database reads, one step each, and then the read of the version. A `Get` that
finds an expired entry deletes it and notifies a change of its own. A snapshot's content is the
mutations that were committed at each of its reads.
-/

namespace Zecurity.EpochCache

abbrev Mutation := ℕ
abbrev CallId := ℕ

def maxCompileRetries : ℕ := 3

structure Snap where
  /-- the committed mutations at each read -/
  seen : List (List Mutation)
  version : UInt64
  deriving DecidableEq

/-- All reads of the snapshot saw the mutation. -/
def Snap.Reflects (x : Snap) (m : Mutation) : Prop := ∀ r ∈ x.seen, m ∈ r

instance (x : Snap) (m : Mutation) : Decidable (x.Reflects m) :=
  inferInstanceAs (Decidable (∀ r ∈ x.seen, _))

/-- Where a call of `Get` stands: at its read, at the second look under the lock, and, having
deleted an expired entry, at the increment and the `Invalidate` of its notification. -/
inductive GetPhase
  | read
  | lock
  | bump
  | inval
  deriving DecidableEq

inductive GetResult (σ : Type)
  | again (p : GetPhase)
  | hit (x : σ)
  | miss

/-- The version counter, the epoch and the cache slot. -/
structure Core (σ : Type) where
  version : UInt64
  epoch : UInt64
  slot : Option σ

inductive FlightPhase (σ ω : Type)
  | loop
  | compiling (observed : UInt64) (seen : List (List Mutation))
  | compiled (observed : UInt64) (x : σ)
  | regetting (last : σ) (p : GetPhase)
  | finished (o : ω)

/-- The loop of `GetOrCompile`. -/
structure Flight (σ ω : Type) where
  attempt : ℕ
  phase : FlightPhase σ ω

/-- What a plane compiles, and what its callers get: a snapshot, with a mark where it is returned
uncached after `maxCompileRetries` lost comparisons, or an error. -/
structure CompileFn (σ ω : Type) where
  numReads : ℕ
  version : σ → UInt64
  done : σ → Bool → ω
  failed : ω

inductive Move (σ : Type)
  | capture
  | read
  | fail
  /-- with the snapshot that the reads, the version and the captured epoch make -/
  | versionRead (x : List (List Mutation) → UInt64 → UInt64 → σ)
  | store
  | reget (expired : σ → Bool)

variable {σ ω : Type}

namespace Core

def bump (c : Core σ) : Core σ := { c with version := c.version + 1 }

def invalidate (c : Core σ) : Core σ := { c with slot := none, epoch := c.epoch + 1 }

/-- A snapshot of a lower version does not replace a cached one. -/
def setLocked (c : Core σ) (version : σ → UInt64) (x : σ) : Core σ :=
  match c.slot with
  | some existing => if version x < version existing then c else { c with slot := some x }
  | none => { c with slot := some x }

def getStep (c : Core σ) (expired : σ → Bool) : GetPhase → Core σ × GetResult σ
  | .read =>
    match c.slot with
    | none => (c, .miss)
    | some entry => if expired entry then (c, .again .lock) else (c, .hit entry)
  | .lock =>
    match c.slot with
    | none => (c, .miss)
    | some entry => if expired entry then ({ c with slot := none }, .again .bump) else (c, .miss)
  | .bump => (c.bump, .again .inval)
  | .inval => (c.invalidate, .miss)

end Core

namespace Flight

def lastAttempt (fl : Flight σ ω) : Bool := decide (maxCompileRetries ≤ fl.attempt + 1)

/-- The reads of a compile so far have all seen the mutation. -/
def sees (fl : Flight σ ω) (m : Mutation) : Bool :=
  match fl.phase with
  | .compiling _ seen => seen.all fun r => decide (m ∈ r)
  | _ => true

/-- After a step of the `Get` that follows a lost comparison. -/
def afterReget (f : CompileFn σ ω) (fl : Flight σ ω) (last : σ) : GetResult σ → Flight σ ω
  | .again p => { fl with phase := .regetting last p }
  | .hit fresh => { fl with phase := .finished (f.done fresh false) }
  | .miss =>
    if fl.lastAttempt then { fl with phase := .finished (f.done last true) }
    else ⟨fl.attempt + 1, .loop⟩

def next (f : CompileFn σ ω) (c : Core σ) (committed : List Mutation) (fl : Flight σ ω) :
    Move σ → Option (Core σ × Flight σ ω)
  | .capture =>
    match fl.phase with
    | .loop => some (c, { fl with phase := .compiling c.epoch [] })
    | _ => none
  | .read =>
    match fl.phase with
    | .compiling observed seen =>
      if seen.length < f.numReads then
        some (c, { fl with phase := .compiling observed (seen ++ [committed]) })
      else none
    | _ => none
  | .fail =>
    match fl.phase with
    | .compiling _ _ => some (c, { fl with phase := .finished f.failed })
    | _ => none
  | .versionRead x =>
    match fl.phase with
    | .compiling observed seen =>
      if seen.length = f.numReads then
        some (c, { fl with phase := .compiled observed (x seen c.version observed) })
      else none
    | _ => none
  | .store =>
    match fl.phase with
    | .compiled observed x =>
      -- `SetIfEpoch`
      if c.epoch = observed then
        some (c.setLocked f.version x, { fl with phase := .finished (f.done x false) })
      else some (c, { fl with phase := .regetting x .read })
    | _ => none
  | .reget expired =>
    match fl.phase with
    | .regetting last p =>
      some ((c.getStep expired p).1, fl.afterReget f last (c.getStep expired p).2)
    | _ => none

end Flight

/-! ### What a step does to the counters and the slot -/

namespace Core

variable {c c' : Core σ}

def count (c : Core σ) : ℕ := max c.version.toNat c.epoch.toNat

/-- Neither counter comes round at its next increment. -/
def Room (c : Core σ) : Prop := c.count < UInt64.size - 1

/-- The counters are as before or one further, and the slot is empty or as it was, in the same
epoch. Every step but a store is of this kind. -/
structure Weakens (c c' : Core σ) : Prop where
  version : c'.version = c.version ∨ c'.version = c.version + 1
  epoch : c'.epoch = c.epoch ∨ c'.epoch = c.epoch + 1
  slot : c'.slot = none ∨ c'.slot = c.slot ∧ c'.epoch = c.epoch

lemma Room.version_lt (h : c.Room) : c.version < c.version + 1 :=
  Runs.lt_succ (by unfold Room count at h; omega)

lemma Room.epoch_lt (h : c.Room) : c.epoch < c.epoch + 1 :=
  Runs.lt_succ (by unfold Room count at h; omega)

lemma Weakens.version_le (h : c.Weakens c') (hr : c.Room) : c.version ≤ c'.version := by
  rcases h.version with he | he <;> rw [he]
  · exact UInt64.le_rfl
  · exact UInt64.le_of_lt hr.version_lt

lemma Weakens.epoch_le (h : c.Weakens c') (hr : c.Room) : c.epoch ≤ c'.epoch := by
  rcases h.epoch with he | he <;> rw [he]
  · exact UInt64.le_rfl
  · exact UInt64.le_of_lt hr.epoch_lt

lemma Weakens.count_le (h : c.Weakens c') : c'.count ≤ c.count + 1 := by
  have hv := Runs.toNat_succ_le c.version
  have he := Runs.toNat_succ_le c.epoch
  unfold count
  rcases h.version with h1 | h1 <;> rcases h.epoch with h2 | h2 <;> rw [h1, h2] <;> omega

lemma Weakens.refl (c : Core σ) : c.Weakens c := ⟨.inl rfl, .inl rfl, .inr ⟨rfl, rfl⟩⟩

lemma weakens_bump (c : Core σ) : c.Weakens c.bump := ⟨.inr rfl, .inl rfl, .inr ⟨rfl, rfl⟩⟩

lemma weakens_invalidate (c : Core σ) : c.Weakens c.invalidate := ⟨.inl rfl, .inr rfl, .inl rfl⟩

lemma getStep_spec (c : Core σ) (expired : σ → Bool) (p : GetPhase) :
    c.Weakens (c.getStep expired p).1 ∧ ∀ x, (c.getStep expired p).2 = .hit x →
      (c.getStep expired p).1 = c ∧ c.slot = some x := by
  fun_cases getStep c expired p with
  | case3 entry hs => exact ⟨.refl c, fun x h => by cases h; exact ⟨rfl, hs⟩⟩
  | case5 => exact ⟨⟨.inl rfl, .inl rfl, .inl rfl⟩, by simp⟩
  | case7 => exact ⟨c.weakens_bump, by simp⟩
  | case8 => exact ⟨c.weakens_invalidate, by simp⟩
  | _ => exact ⟨.refl c, by simp⟩

lemma setLocked_cases (c : Core σ) (version : σ → UInt64) (x : σ) :
    c.setLocked version x = c ∨ c.setLocked version x = { c with slot := some x } := by
  unfold setLocked
  split
  · split
    · exact .inl rfl
    · exact .inr rfl
  · exact .inr rfl

end Core

lemma Flight.count_next {f : CompileFn σ ω} {c c' : Core σ} {committed : List Mutation}
    {fl fl' : Flight σ ω} {m : Move σ} (h : fl.next f c committed m = some (c', fl')) :
    c'.count ≤ c.count + 1 := by
  revert h
  fun_cases next f c committed fl m <;> rintro ⟨⟩
  · exact Nat.le_succ _
  · exact Nat.le_succ _
  · exact Nat.le_succ _
  · exact Nat.le_succ _
  · rcases c.setLocked_cases f.version _ with h | h <;> rw [h] <;> exact Nat.le_succ _
  · exact Nat.le_succ _
  · exact (c.getStep_spec _ _).1.count_le

end Zecurity.EpochCache
