import Mathlib.Algebra.Order.Ring.Rat
import Mathlib.Tactic.Linarith
import Zecurity.RelayDrain

/-!
The capacity label of a relay (`controller/internal/relay/capacity_label.go`, and
`EvaluateCapacityLabel` of `store.go`). Fills and thresholds are exact, and the label is one of the
three that its column admits.
-/

namespace Zecurity.CapacityLabels

open RelayDrain (CapacityLabel)

abbrev Time := ℤ

structure Decision where
  newLabel : CapacityLabel
  newPending : Option CapacityLabel
  newPendingSince : Option Time

def decideHysteresis (current : CapacityLabel) (pending : Option CapacityLabel)
    (pendingSince : Option Time) (candidate : CapacityLabel) (now holdDown : Time) : Decision :=
  if candidate = current then ⟨current, none, none⟩
  else if pending ≠ some candidate then ⟨current, some candidate, some now⟩
  else if ∃ since ∈ pendingSince, holdDown ≤ now - since then ⟨candidate, none, none⟩
  else ⟨current, pending, pendingSince⟩

def computeCandidateLabel (current : CapacityLabel) (count max : ℕ) : CapacityLabel :=
  if max = 0 then .low
  else
    let fill : ℚ := count / max
    match current with
    | .high => if 4 / 5 ≤ fill then .low else if 1 / 2 ≤ fill then .medium else .high
    | .medium => if 4 / 5 ≤ fill then .low else if fill < 9 / 20 then .high else .medium
    | .low => if fill < 9 / 20 then .high else if fill < 3 / 4 then .medium else .low

structure Observation where
  now : Time
  count : ℕ
  max : ℕ

def Observation.fill (o : Observation) : ℚ := o.count / o.max

/-- A row. Two of its fields are no columns: the candidates of all observations, the last one first,
and how often the label has changed. -/
structure Relay where
  label : CapacityLabel
  pending : Option CapacityLabel
  pendingSince : Option Time
  candidates : List (Time × CapacityLabel)
  changes : ℕ

def evaluateCapacityLabel (holdDown : Time) (r : Relay) (o : Observation) : Relay :=
  let candidate := computeCandidateLabel r.label o.count o.max
  let d := decideHysteresis r.label r.pending r.pendingSince candidate o.now holdDown
  { label := d.newLabel
    pending := d.newPending
    pendingSince := d.newPendingSince
    candidates := (o.now, candidate) :: r.candidates
    changes := if d.newLabel = r.label then r.changes else r.changes + 1 }

def run (holdDown : Time) (os : List Observation) : Relay :=
  os.foldl (evaluateCapacityLabel holdDown) ⟨.high, none, none, [], 0⟩

/-- The latest observations, from one at this time on, had this candidate. -/
def Supported (candidates : List (Time × CapacityLabel)) (since : Time)
    (c : CapacityLabel) : Prop :=
  ∃ mid rest, candidates = mid ++ (since, c) :: rest ∧ ∀ e ∈ mid, e.2 = c

variable {holdDown : Time} {r : Relay} {o : Observation}

lemma Supported.cons {cands since now c} (h : Supported cands since c) :
    Supported ((now, c) :: cands) since c := by
  obtain ⟨mid, rest, rfl, hm⟩ := h
  exact ⟨(now, c) :: mid, rest, rfl, List.forall_mem_cons.2 ⟨rfl, hm⟩⟩

/-- **One observation** keeps the label, with at most its candidate pending, or promotes a candidate
that has been pending for the hold-down. -/
lemma evaluate_cases (holdDown : Time) (r : Relay) (o : Observation) :
    let c := computeCandidateLabel r.label o.count o.max
    let r' := evaluateCapacityLabel holdDown r o
    (r'.label = r.label ∧ ∀ p, r'.pending = some p → p = c ∧ (r'.pendingSince = some o.now ∨
      r.pending = some c ∧ r'.pendingSince = r.pendingSince)) ∨
    r'.label = c ∧ r'.pending = none ∧ r.pending = some c ∧
      ∃ since, r.pendingSince = some since ∧ since + holdDown ≤ o.now := by
  simp only [evaluateCapacityLabel, decideHysteresis]
  split_ifs with hc hp hs
  · simp
  · simp
  · obtain ⟨since, hs, hle⟩ := hs
    have hle : since + holdDown ≤ o.now := by linarith
    exact .inr ⟨rfl, rfl, not_not.1 hp, since, hs, hle⟩
  · have hp := not_not.1 hp
    simp [hp]

/-- What is pending has been supported since. -/
def Held (r : Relay) : Prop :=
  ∀ c, r.pending = some c → ∃ since, r.pendingSince = some since ∧ Supported r.candidates since c

lemma Held.evaluate (h : Held r) (o : Observation) : Held (evaluateCapacityLabel holdDown r o) := by
  intro c hc
  obtain ⟨-, hd⟩ | ⟨-, hn, -⟩ := evaluate_cases holdDown r o
  · obtain ⟨rfl, hs | ⟨hp, hs⟩⟩ := hd c hc
    · exact ⟨o.now, hs, [], r.candidates, rfl, nofun⟩
    · obtain ⟨since, hs', hsup⟩ := h _ hp
      exact ⟨since, hs.trans hs', hsup.cons⟩
  · cases hn.symm.trans hc

lemma Held.supported (h : Held r) (o : Observation)
    (hne : (evaluateCapacityLabel holdDown r o).label ≠ r.label) :
    ∃ since, since + holdDown ≤ o.now ∧ Supported (evaluateCapacityLabel holdDown r o).candidates
      since (evaluateCapacityLabel holdDown r o).label := by
  obtain ⟨hl, -⟩ | ⟨hl, -, hp, since, hs, hle⟩ := evaluate_cases holdDown r o
  · exact absurd hl hne
  · obtain ⟨since', hs', hsup⟩ := h _ hp
    cases hs.symm.trans hs'
    rw [hl]
    exact ⟨since, hle, hsup.cons⟩

lemma held_foldl (os : List Observation) (h : Held r) :
    Held (os.foldl (evaluateCapacityLabel holdDown) r) := by
  induction os generalizing r with
  | nil => exact h
  | cons o os ih => exact ih (h.evaluate o)

/-! ### Fills in a short interval -/

variable {a b : ℚ}

/-- How often the label can still change while the fills are between `a` and `b`. -/
def rank (a b : ℚ) (label : CapacityLabel) : ℕ :=
  match label with
  | .high => if 4 / 5 ≤ b then 2 else if a < 9 / 20 then 0 else 1
  | .medium => if 4 / 5 ≤ b then 1 else if a < 9 / 20 then 1 else 0
  | .low => if 4 / 5 ≤ b then 0 else if a < 9 / 20 then 2 else 1

lemma rank_candidate_lt (hab : b - a < 1 / 20) (hm : 0 < o.max) (ha : a ≤ o.fill)
    (hb : o.fill ≤ b) {label} (hne : computeCandidateLabel label o.count o.max ≠ label) :
    rank a b (computeCandidateLabel label o.count o.max) < rank a b label := by
  simp only [computeCandidateLabel, hm.ne', if_false] at hne ⊢
  change a ≤ o.count / o.max at ha
  change o.count / o.max ≤ b at hb
  generalize (o.count / o.max : ℚ) = fill at *
  cases label <;> simp only at hne ⊢ <;> split_ifs at hne ⊢ <;> simp only [rank] <;> split_ifs <;>
    first | decide | (exfalso; linarith) | exact absurd rfl hne

lemma changes_evaluate (r : Relay) (o : Observation) (hab : b - a < 1 / 20) (hm : 0 < o.max)
    (ha : a ≤ o.fill) (hb : o.fill ≤ b) :
    (evaluateCapacityLabel holdDown r o).changes +
        rank a b (evaluateCapacityLabel holdDown r o).label ≤ r.changes + rank a b r.label := by
  have hc : (evaluateCapacityLabel holdDown r o).changes =
      if (evaluateCapacityLabel holdDown r o).label = r.label then r.changes
      else r.changes + 1 := rfl
  rw [hc]
  split_ifs with hl
  · rw [hl]
  · obtain ⟨hl', -⟩ | ⟨hl', -⟩ := evaluate_cases holdDown r o
    · exact absurd hl' hl
    · rw [hl'] at hl ⊢
      have hlt := rank_candidate_lt hab hm ha hb hl
      omega

lemma changes_foldl (holdDown : Time) (os : List Observation) (r : Relay) (hab : b - a < 1 / 20)
    (hos : ∀ o ∈ os, 0 < o.max ∧ a ≤ o.fill ∧ o.fill ≤ b) :
    (os.foldl (evaluateCapacityLabel holdDown) r).changes +
        rank a b (os.foldl (evaluateCapacityLabel holdDown) r).label ≤
      r.changes + rank a b r.label := by
  induction os generalizing r with
  | nil => exact le_rfl
  | cons o os ih =>
    obtain ⟨⟨hm, ha, hb⟩, hos⟩ := List.forall_mem_cons.1 hos
    exact (ih _ hos).trans (changes_evaluate r o hab hm ha hb)

lemma rank_le_two (a b : ℚ) (label : CapacityLabel) : rank a b label ≤ 2 := by
  cases label <;> simp only [rank] <;> split_ifs <;> decide

/-- **Labels do not flap.** A label is replaced only by one that all observations of a full
hold-down supported, and while the fills stay in an interval that is shorter than the dead-band it
changes at most twice. -/
theorem labels_settle (holdDown : Time) (os : List Observation) :
    (∀ o, (run holdDown (os ++ [o])).label ≠ (run holdDown os).label →
      ∃ since, since + holdDown ≤ o.now ∧
        Supported (run holdDown (os ++ [o])).candidates since (run holdDown (os ++ [o])).label) ∧
    ∀ os' (a b : ℚ), b - a < 1 / 20 → (∀ o ∈ os', 0 < o.max ∧ a ≤ o.fill ∧ o.fill ≤ b) →
      (run holdDown (os ++ os')).changes ≤ (run holdDown os).changes + 2 := by
  constructor
  · intro o hne
    have hh : Held (run holdDown os) := held_foldl os nofun
    rw [run, List.foldl_append] at hne ⊢
    exact hh.supported o hne
  · intro os' a b hab hos
    have hle := changes_foldl holdDown os' (run holdDown os) hab hos
    have ht := rank_le_two a b (run holdDown os).label
    rw [run, List.foldl_append]
    change (os'.foldl _ (run holdDown os)).changes ≤ _
    omega

end Zecurity.CapacityLabels
