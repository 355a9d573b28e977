import Mathlib.Data.Finset.Basic

/-!
The counters of the reconciler (`controller/internal/connector/reconcile.go`,
`reconcileShield`): a resync after two drifting reports, a reap after three without the tombstone.

A report comes with what the two reads for it have answered. A failed read of the desired set
ends the evaluation; a failed read of the tombstones leaves it with those that were read. The
reports so far are a list, the last one first.
-/

namespace Zecurity.Reconcile

open Function List

def driftReportsBeforeResync : ℕ := 2
def absentReportsBeforeReap : ℕ := 3

structure Report where
  shieldId : String
  active : Finset String
  /-- `none`: the read failed -/
  desired : Option (Finset String)
  deleting : Finset String
  deletingOk : Bool := true

def Report.evaluated (r : Report) : Bool := r.desired.isSome && r.deletingOk

def Report.drifts (r : Report) : Bool :=
  r.desired.any fun desired =>
    decide (∃ id ∈ r.active, id ∉ desired) || decide (∃ id ∈ desired, id ∉ r.active)

structure State where
  drift : String → ℕ := fun _ => 0
  absent : String → ℕ := fun _ => 0

/-- The tombstones to reap. -/
def State.toReap (s : State) (r : Report) : Finset String :=
  if r.desired.isSome then
    r.deleting.filter fun id => id ∉ r.active ∧ absentReportsBeforeReap ≤ s.absent id + 1
  else ∅

def State.shouldResync (s : State) (r : Report) : Bool :=
  r.drifts && decide (driftReportsBeforeResync ≤ s.drift r.shieldId + 1)

def State.reconcileShield (s : State) (r : Report) : State :=
  if r.desired.isSome then
    { drift := update s.drift r.shieldId
        (if r.drifts && !s.shouldResync r then s.drift r.shieldId + 1 else 0)
      absent := fun id =>
        if id ∉ r.deleting then s.absent id
        else if id ∈ r.active ∨ id ∈ s.toReap r then 0 else s.absent id + 1 }
  else s

def run : List Report → State
  | [] => {}
  | r :: past => (run past).reconcileShield r

/-- How many of the last evaluated reports of the shield drift. -/
def driftStreak (shieldId : String) (reports : List Report) : ℕ :=
  ((reports.filter fun r => r.shieldId = shieldId ∧ r.desired.isSome).takeWhile
    Report.drifts).length

/-- How many of the last reports of the shield were evaluated, and were without the resource. -/
def absentStreak (shieldId id : String) (reports : List Report) : ℕ :=
  ((reports.filter fun r => r.shieldId = shieldId).takeWhile fun r =>
    r.evaluated && decide (id ∉ r.active)).length

/-- **The condition.** The resource is a tombstone of this shield only, and while it is counted
every report of the shield is evaluated and finds it among the tombstones. -/
def Watched (shieldId id : String) : List Report → Prop
  | [] => True
  | r :: past =>
    (id ∈ r.deleting → r.shieldId = shieldId ∧ r.evaluated = true) ∧
      (r.shieldId = shieldId → (run past).absent id ≠ 0 → r.evaluated = true ∧ id ∈ r.deleting) ∧
      Watched shieldId id past

variable {shieldId id : String} {r : Report}

lemma driftStreak_cons {past} (h : r.drifts = true) :
    driftStreak r.shieldId (r :: past) = driftStreak r.shieldId past + 1 := by
  have hr : r.desired.isSome = true := by
    rcases hd : r.desired with _ | _ <;> simp_all [Report.drifts]
  simp [driftStreak, hr, h]

lemma drift_run (past : List Report) :
    (run past).drift shieldId = driftStreak shieldId past % 2 := by
  induction past with
  | nil => rfl
  | cons r past ih =>
    by_cases hof : r.shieldId = shieldId ∧ r.desired.isSome = true
    · obtain ⟨rfl, hr⟩ := hof
      have hlt : driftStreak r.shieldId past % 2 < 2 := Nat.mod_lt _ (by decide)
      rcases hd : r.drifts with _ | _
      · simp [run, State.reconcileShield, driftStreak, hr, hd]
      · simp only [run, State.reconcileShield, State.shouldResync, hr, hd, ih, if_true,
          update_self, driftReportsBeforeResync]
        rw [driftStreak_cons hd]
        split <;> simp_all <;> omega
    · have hs : driftStreak shieldId (r :: past) = driftStreak shieldId past := by
        simp [driftStreak, hof]
      rw [hs, ← ih, run, State.reconcileShield]
      split
      · next hr => exact update_of_ne (fun heq => hof ⟨heq.symm, hr⟩) _ _
      · rfl

lemma absentStreak_cons {past} (h : r.evaluated = true) (hid : id ∉ r.active) :
    absentStreak r.shieldId id (r :: past) = absentStreak r.shieldId id past + 1 := by
  simp [absentStreak, h, hid]

lemma absent_run : ∀ {past : List Report}, Watched shieldId id past →
    (run past).absent id ≤ absentStreak shieldId id past
  | [], _ => Nat.zero_le _
  | r :: past, ⟨ho, hc, hp⟩ => by
    have ih := absent_run hp
    by_cases hl : r.desired.isSome = true ∧ id ∈ r.deleting
    · obtain ⟨hr, hd⟩ := hl
      obtain ⟨rfl, he⟩ := ho hd
      by_cases ha : id ∈ r.active
      · simp [run, State.reconcileShield, hr, hd, ha]
      · have hle : (run (r :: past)).absent id ≤ (run past).absent id + 1 := by
          simp only [run, State.reconcileShield, hr, hd, not_true, if_false, if_true]
          split <;> omega
        rw [absentStreak_cons he ha]
        omega
    · have hsm : (run (r :: past)).absent id = (run past).absent id := by
        simp only [run, State.reconcileShield]
        split <;> simp_all
      rw [hsm]
      by_cases hs : r.shieldId = shieldId
      · -- a report that does not count comes only where nothing is counted
        by_contra hlt
        obtain ⟨he, hd⟩ := hc hs (by omega)
        exact hl ⟨(Bool.and_eq_true_iff.1 he).1, hd⟩
      · simpa [absentStreak, hs] using ih

/-- **A resync** comes with every second consecutive drifting report, and a tombstone that is
watched is **reaped** only after three consecutive reports without it. -/
theorem reconcile_consecutive (past : List Report) (r : Report) :
    ((run past).shouldResync r = true ↔
      r.drifts = true ∧ driftStreak r.shieldId (r :: past) % 2 = 0) ∧
    ∀ id ∈ (run past).toReap r, Watched r.shieldId id (r :: past) →
      absentReportsBeforeReap ≤ absentStreak r.shieldId id (r :: past) := by
  constructor
  · simp only [State.shouldResync, Bool.and_eq_true, decide_eq_true_eq, drift_run,
      driftReportsBeforeResync]
    refine and_congr_right fun hdr => ?_
    rw [driftStreak_cons hdr]
    omega
  · rintro id hid ⟨ho, -, hp⟩
    have hle := absent_run hp
    unfold State.toReap at hid
    split at hid
    · obtain ⟨hd, ha, hc⟩ := Finset.mem_filter.1 hid
      rw [absentStreak_cons (ho hd).2 ha]
      omega
    · cases hid

/-- A report of the shield, without its tombstone. -/
def without : Report := ⟨"s", ∅, some ∅, {"r"}, true⟩

/-- A report with the tombstone, whose evaluation fails. -/
def failedWith : Report := ⟨"s", {"r"}, none, ∅, true⟩

theorem reconcile_without :
    "r" ∈ (run [without, without]).toReap without ∧
      absentReportsBeforeReap ≤ absentStreak "s" "r" [without, without, without] := by
  have hr : "r" ∈ (run [without, without]).toReap without := by decide
  refine ⟨hr, (reconcile_consecutive [without, without] without).2 "r" hr ?_⟩
  simp [Watched, without, Report.evaluated]

/-- The evaluation of the second report fails, and two later ones are enough. -/
theorem reaped_after_two :
    "r" ∈ (run [without, failedWith, without]).toReap without ∧
      absentStreak "s" "r" [without, without, failedWith, without] = 2 := by
  decide

end Zecurity.Reconcile
