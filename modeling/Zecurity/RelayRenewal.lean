import Mathlib.Algebra.Order.Ring.Int

/-!
When a relay renews its certificate (`relay/src/renewal.rs`).

Times are seconds since the epoch. Where the source would panic the answer is `none`: an `i64` that
overflows, and a `clamp` whose bounds are crossed.
-/

namespace Zecurity.RelayRenewal

def i64 (x : ℤ) : Option ℤ :=
  if -9223372036854775808 ≤ x ∧ x ≤ 9223372036854775807 then some x else none

def clamp (x lo hi : ℤ) : Option ℤ := if lo ≤ hi then some (max lo (min x hi)) else none

def scheduleStart (notBefore notAfter : ℤ) : Option ℤ → ℤ
  | some at_ => if at_ < notAfter then max at_ notBefore else notBefore
  | none => notBefore

inductive Plan
  | expired
  | renewIn (delay : ℕ)

structure Certificate where
  notBefore : ℤ
  notAfter : ℤ
  /-- from `relay.crt.meta` -/
  installedAt : Option ℤ

def Certificate.start (c : Certificate) : ℤ := scheduleStart c.notBefore c.notAfter c.installedAt

def plan (now : ℤ) (c : Certificate) (jitter : ℤ) : Option Plan :=
  if c.notAfter ≤ now then some .expired
  else do
    let lifetime := max (← i64 (c.notAfter - c.start)) 0
    let remaining := (← i64 (lifetime * 2)) / 5
    let target ← i64 ((← i64 (c.notAfter - remaining)) + jitter)
    let renewAt ← clamp target c.start (← i64 (c.notAfter - 1))
    let delay ← i64 (renewAt - now)
    some (.renewIn delay.toNat)

def maxJitterSecs (lifetime : ℤ) : ℤ := max 0 (min (lifetime / 20) 900)

def jitterFrom (random : ℕ) (lifetime : ℤ) : ℤ :=
  let max := maxJitterSecs lifetime
  if max = 0 then 0 else random % (2 * max + 1) - max

def backoff (failures : ℕ) (remaining : ℤ) : ℕ :=
  max (min (min (60 * 2 ^ min (failures - 1) 16) 1800) (remaining.toNat / 4)) 5

/-- The loop of `run` between two attempts that fail. -/
structure Retry where
  now : ℤ
  failures : ℕ

/-- An attempt that fails `took` seconds later; `aborted`, as one with the same key is in flight. -/
structure Failure where
  took : ℕ
  aborted : Bool

def Retry.after (c : Certificate) (s : Retry) (f : Failure) : Retry :=
  let now := s.now + f.took
  if f.aborted then ⟨now + 5, s.failures⟩
  else
    let failures := min (s.failures + 1) 4294967295
    ⟨now + backoff failures (c.notAfter - now), failures⟩

variable {now jitter x : ℤ} {c : Certificate}

lemma i64_eq_some (h : -9223372036854775808 ≤ x) (h' : x ≤ 9223372036854775807) : i64 x = some x :=
  if_pos ⟨h, h'⟩

lemma jitterFrom_mem (random : ℕ) (life : ℤ) :
    -900 ≤ jitterFrom random life ∧ jitterFrom random life ≤ 900 := by
  have hm : 0 ≤ maxJitterSecs life ∧ maxJitterSecs life ≤ 900 := by
    unfold maxJitterSecs
    omega
  simp only [jitterFrom]
  split_ifs with h
  · omega
  · have hpos : (0 : ℤ) < 2 * maxJitterSecs life + 1 := by omega
    have hlo := Int.emod_nonneg random (ne_of_gt hpos)
    have hhi := Int.emod_lt_of_pos random hpos
    omega

/-- Times far beyond those that a certificate can name. -/
structure Certificate.InRange (c : Certificate) : Prop where
  notBefore : -2 ^ 60 ≤ c.notBefore
  notAfter : c.notAfter ≤ 2 ^ 60

lemma notBefore_le_start (c : Certificate) : c.notBefore ≤ c.start := by
  unfold Certificate.start scheduleStart
  split
  · split_ifs <;> omega
  · omega

lemma start_lt (hlt : c.notBefore < c.notAfter) : c.start < c.notAfter := by
  unfold Certificate.start scheduleStart
  split
  · split_ifs <;> omega
  · omega

def Certificate.renewAt (c : Certificate) (jitter : ℤ) : ℤ :=
  max c.start (min (c.notAfter - (c.notAfter - c.start) * 2 / 5 + jitter) (c.notAfter - 1))

lemma plan_eq (hc : c.InRange) (hv : c.notBefore < c.notAfter) (hj : -900 ≤ jitter ∧ jitter ≤ 900)
    (hn : 0 ≤ now) (hlt : now < c.notAfter) :
    plan now c jitter = some (.renewIn (c.renewAt jitter - now).toNat) := by
  have hlo := notBefore_le_start c
  have hhi := start_lt hv
  obtain ⟨hb, ha⟩ := hc
  have hm : max (c.notAfter - c.start) 0 = c.notAfter - c.start := max_eq_left (by omega)
  unfold plan Certificate.renewAt
  rw [if_neg (by omega), i64_eq_some (x := c.notAfter - c.start) (by omega) (by omega)]
  simp only [Option.bind_eq_bind, Option.bind_some, hm]
  rw [i64_eq_some (by omega) (by omega), Option.bind_some, i64_eq_some (by omega) (by omega),
    Option.bind_some, i64_eq_some (by omega) (by omega), Option.bind_some,
    i64_eq_some (by omega) (by omega), Option.bind_some, clamp, if_pos (by omega), Option.bind_some,
    i64_eq_some (by omega) (by omega), Option.bind_some]

lemma plan_eq_none (hv : c.notAfter ≤ c.notBefore) (hlt : now < c.notAfter) :
    plan now c jitter = none := by
  have hst := notBefore_le_start c
  have hclamp : ∀ target hi, i64 (c.notAfter - 1) = some hi → clamp target c.start hi = none := by
    intro target hi hhi
    obtain ⟨-, rfl⟩ := Option.ite_some_none_eq_some.1 hhi
    exact if_neg (by omega)
  unfold plan
  rw [if_neg (not_le.2 hlt)]
  simp only [Option.bind_eq_bind, Option.bind_eq_none_iff]
  intro _ _ _ _ _ _ target _ hi hhi renewAt hr
  rw [hclamp target hi hhi] at hr
  cases hr

/-- The relay is inside the window in which it renews: the last two fifths of the life that starts
with the installation, moved by the jitter, and at the latest the last second. -/
def Certificate.InWindow (c : Certificate) (jitter now : ℤ) : Prop :=
  c.start ≤ now ∧
    (c.notAfter - (c.notAfter - c.start) * 2 / 5 + jitter ≤ now ∨ now = c.notAfter - 1)

/-- What the planner answers over the life of a certificate. -/
structure Planned (c : Certificate) (jitter now : ℤ) : Prop where
  expired : plan now c jitter = some .expired ↔ c.notAfter ≤ now
  planned : now < c.notAfter → ∃ delay, plan now c jitter = some (.renewIn delay) ∧
    now + delay ≤ c.notAfter - 1 ∧ (delay = 0 → c.InWindow jitter now)
  /-- after any failures, and one more that leaves at least 20 seconds, `run` attempts again -/
  retried : plan now c jitter = some (.renewIn 0) → ∀ (failures : List Failure) (f : Failure),
    let s := failures.foldl (Retry.after c) ⟨now, 0⟩
    20 ≤ c.notAfter - (s.now + f.took) →
      (s.after c f).now < c.notAfter ∧ plan (s.after c f).now c jitter = some (.renewIn 0)

lemma now_le_after (s : Retry) (f : Failure) : s.now ≤ (s.after c f).now := by
  simp only [Retry.after]
  split_ifs <;> dsimp only <;> omega

lemma now_le_foldl (fails : List Failure) (s : Retry) :
    s.now ≤ (fails.foldl (Retry.after c) s).now := by
  induction fails generalizing s with
  | nil => exact le_rfl
  | cons f fails ih => exact le_trans (now_le_after s f) (ih (s.after c f))

lemma after_now_lt (s : Retry) (f : Failure) (h : 20 ≤ c.notAfter - (s.now + f.took)) :
    (s.after c f).now < c.notAfter := by
  simp only [Retry.after]
  split_ifs
  · dsimp only
    omega
  · simp only [backoff]
    omega

lemma planned_of_expired (h : c.notAfter ≤ now) : Planned c jitter now where
  expired := ⟨fun _ => h, fun _ => if_pos h⟩
  planned := fun hlt => absurd h (not_le.2 hlt)
  retried := fun hp => by
    rw [plan, if_pos h] at hp
    cases hp

lemma planned_of_lt (hc : c.InRange) (hv : c.notBefore < c.notAfter) (hn : 0 ≤ now)
    (hj : -900 ≤ jitter ∧ jitter ≤ 900) : Planned c jitter now := by
  have hst := start_lt hv
  have hle : c.renewAt jitter ≤ c.notAfter - 1 := by
    unfold Certificate.renewAt
    omega
  constructor
  · constructor
    · intro h
      by_contra hlt
      rw [plan_eq hc hv hj hn (not_le.1 hlt)] at h
      cases h
    · exact fun h => if_pos h
  · intro hlt
    refine ⟨_, plan_eq hc hv hj hn hlt, by omega, fun h => ?_⟩
    unfold Certificate.InWindow
    unfold Certificate.renewAt at h hle
    omega
  · intro h fails f s hr
    have hlt := after_now_lt s f hr
    have hm : now ≤ (s.after c f).now := le_trans (now_le_foldl fails ⟨now, 0⟩) (now_le_after s f)
    refine ⟨hlt, ?_⟩
    rw [plan_eq hc hv hj hn (by omega)] at h
    rw [plan_eq hc hv hj (by omega) hlt]
    simp only [Option.some.injEq, Plan.renewIn.injEq] at h ⊢
    omega

/-- **The planner stays inside the life of the certificate** exactly where that is not empty, or
is over. -/
theorem planned_iff (hc : c.InRange) (hn : 0 ≤ now) (random : ℕ) (lifetime : ℤ) :
    Planned c (jitterFrom random lifetime) now ↔
      c.notBefore < c.notAfter ∨ c.notAfter ≤ now := by
  constructor
  · intro h
    by_contra hcon
    obtain ⟨hv, hlt⟩ := not_or.1 hcon
    obtain ⟨delay, hp, -⟩ := h.planned (not_le.1 hlt)
    rw [plan_eq_none (not_lt.1 hv) (not_le.1 hlt)] at hp
    cases hp
  · rintro (hv | h)
    · exact planned_of_lt hc hv hn (jitterFrom_mem random lifetime)
    · exact planned_of_expired h

/-- A week, installed an hour after it starts, looked at on its fifth day; and a certificate whose
validity is empty, after its end. -/
theorem planned_week : Planned ⟨0, 604800, some 3600⟩ (jitterFrom 7 601200) 432000 ∧
    Planned ⟨100, 50, none⟩ (jitterFrom 0 (-50)) 60 :=
  ⟨(planned_iff ⟨by decide, by decide⟩ (by decide) 7 601200).2 (.inl (by decide)),
    (planned_iff ⟨by decide, by decide⟩ (by decide) 0 (-50)).2 (.inr (by decide))⟩

/-- A certificate that starts only after it ends: the bounds of `clamp` are crossed. -/
theorem plan_crossed : plan 10 ⟨100, 50, none⟩ (jitterFrom 0 (-50)) = none := by decide

end Zecurity.RelayRenewal
