import Mathlib.Data.List.Basic
import Mathlib.Order.Lattice

/-!
Device posture in the access-control list (`requiredProfiles` and `applyPosture` of
`controller/internal/policy/compiler.go`).

Instants are nanoseconds since Go's zero time, so that `0` is the zero value `time.Time{}`.
Identifiers are their canonical text.
-/

namespace Zecurity.Posture

abbrev Time := ℕ
abbrev Uuid := String

/-- `posture.MaxReportAge`, ten minutes. -/
def maxReportAge : ℕ := 600000000000

structure Profile where
  id : Uuid
  name : String
  revision : Int
  deriving DecidableEq

structure Evaluation where
  profileId : Uuid
  satisfied : Bool
  profileRevision : Int
  reportReceivedAt : Option Time
  deriving DecidableEq

/-- The profiles a resource requires: the listed ids, resolved against the workspace's
profiles (`byID`, where a later profile of the same id would win); an id that is not among
them is dropped. -/
def requiredProfiles (profiles : List Profile) (resourceProfiles : Uuid → List Uuid)
    (resourceId : Uuid) : List Profile :=
  (resourceProfiles resourceId).filterMap fun id => profiles.reverse.find? fun p => p.id = id

/-- The inner loop over a device's evaluations: the first one of the profile decides, and
the result is when it expires. -/
def evaluationExpiry (now : Time) (profile : Profile) : List Evaluation → Option Time
  | [] => none
  | evaluation :: rest =>
    if evaluation.profileId ≠ profile.id then evaluationExpiry now profile rest
    else if !evaluation.satisfied then none
    else if evaluation.profileRevision ≠ profile.revision then none
    else match evaluation.reportReceivedAt with
      | none => none
      | some received =>
        if now < received + maxReportAge then some (received + maxReportAge) else none

/-- One profile's turn on `isAuthorized` and `deviceValidUntil`. -/
def profileStep (now : Time) (evaluations : List Evaluation) (acc : Bool × Time)
    (profile : Profile) : Bool × Time :=
  match evaluationExpiry now profile evaluations with
  | none => acc
  | some expiresAt => (true, if acc.2 < expiresAt then expiresAt else acc.2)

/-- `isAuthorized` and `deviceValidUntil` of one device. -/
def deviceValidity (now : Time) (required : List Profile) (evaluations : List Evaluation) :
    Bool × Time :=
  required.foldl (profileStep now evaluations) (false, 0)

/-- One device's turn on `allowedSPIFFEs` and `pairValidUntil`. -/
def deviceStep (now : Time) (required : List Profile) (evaluations : Uuid → List Evaluation)
    (acc : List String × Time) (device : Uuid × String) : List String × Time :=
  let v := deviceValidity now required (evaluations device.1)
  if v.1 then (acc.1 ++ [device.2], if acc.2 < v.2 then v.2 else acc.2) else acc

/-- The allowed SPIFFE ids, `pairValidUntil`, and whether the entry is gated. -/
def applyPosture (now : Time) (entryDevices : List (Uuid × String)) (required : List Profile)
    (evaluations : Uuid → List Evaluation) : List String × Time × Bool :=
  if required = [] then (entryDevices.map Prod.snd, 0, false)
  else
    let r := entryDevices.foldl (deviceStep now required evaluations) ([], 0)
    (r.1, r.2, true)

/-- The device passes one of the required profiles at `now`. -/
def Authorized (now : Time) (required : List Profile) (evaluations : List Evaluation) : Prop :=
  (deviceValidity now required evaluations).1 = true

instance (now : Time) (required : List Profile) (evaluations : List Evaluation) :
    Decidable (Authorized now required evaluations) :=
  inferInstanceAs (Decidable (_ = true))

/-- The first evaluation of some required profile is satisfied, of the profile's current
revision, and on a report that expires at `x`, after `now`. -/
def CountsUntil (now : Time) (required : List Profile) (evaluations : List Evaluation)
    (x : Time) : Prop :=
  ∃ profile ∈ required, ∃ e, evaluations.find? (fun e => e.profileId = profile.id) = some e ∧
    e.satisfied = true ∧ e.profileRevision = profile.revision ∧
    ∃ received, e.reportReceivedAt = some received ∧ x = received + maxReportAge ∧ now < x

lemma later_le_iff (a b y : ℕ) : (if a < b then b else a) ≤ y ↔ a ≤ y ∧ b ≤ y := by
  split <;> omega

/-! ### One device -/

variable {t x y : Time} {ds : List (Uuid × String)}

lemma evaluationExpiry_eq_some {now prof evs} :
    evaluationExpiry now prof evs = some x ↔
      ∃ e, evs.find? (fun e => e.profileId = prof.id) = some e ∧
        e.satisfied = true ∧ e.profileRevision = prof.revision ∧
        ∃ received, e.reportReceivedAt = some received ∧ x = received + maxReportAge ∧ now < x := by
  induction evs with
  | nil => simp [evaluationExpiry]
  | cons e rest ih =>
    by_cases hid : e.profileId = prof.id
    · have hf : (e :: rest).find? (fun e => e.profileId = prof.id) = some e := by simp [hid]
      simp only [evaluationExpiry, hid, hf, Option.some.injEq, exists_eq_left']
      rcases hs : e.satisfied with _ | _
      · simp
      · by_cases hr : e.profileRevision = prof.revision
        · rcases hrec : e.reportReceivedAt with _ | received
          · simp [hr]
          · simp only [hr, Option.some.injEq, exists_eq_left', ne_eq, not_true_eq_false,
              if_false, Bool.not_true, Bool.false_eq_true]
            constructor
            · intro h
              split at h
              · next hlt => cases h; exact ⟨trivial, trivial, rfl, hlt⟩
              · cases h
            · rintro ⟨-, -, rfl, hlt⟩
              rw [if_pos hlt]
        · simp [hr]
    · have hf : (e :: rest).find? (fun e => e.profileId = prof.id) =
          rest.find? (fun e => e.profileId = prof.id) := by simp [hid]
      rw [hf, evaluationExpiry, if_pos hid]
      exact ih

/-- The loop over the profiles, started from an accumulator: it authorizes if it started so
or some evaluation counts, and its time is the latest it has seen. -/
lemma foldl_profileStep (now : Time) (evs : List Evaluation) (req : List Profile)
    (acc : Bool × Time) :
    ((req.foldl (profileStep now evs) acc).1 = true ↔
      acc.1 = true ∨ ∃ x, CountsUntil now req evs x) ∧
    (∀ y, (req.foldl (profileStep now evs) acc).2 ≤ y ↔
      acc.2 ≤ y ∧ ∀ x, CountsUntil now req evs x → x ≤ y) := by
  induction req generalizing acc with
  | nil => simp [CountsUntil]
  | cons prof rest ih =>
    have hc : ∀ x, CountsUntil now (prof :: rest) evs x ↔
        evaluationExpiry now prof evs = some x ∨ CountsUntil now rest evs x := by
      intro x
      simp only [CountsUntil, List.mem_cons, or_and_right, exists_or, exists_eq_left,
        evaluationExpiry_eq_some]
    rw [List.foldl_cons]
    obtain ⟨hath, ht⟩ := ih (profileStep now evs acc prof)
    simp only [hath, ht, hc]
    rcases he : evaluationExpiry now prof evs with _ | x0
    · simp [profileStep, he]
    · simp only [profileStep, he, Option.some.injEq]
      refine ⟨⟨fun _ => .inr ⟨x0, .inl rfl⟩, fun _ => .inl trivial⟩, fun y => ?_⟩
      rw [later_le_iff, and_assoc]
      constructor
      · rintro ⟨ha, hx0, hr⟩
        exact ⟨ha, fun x hx => hx.elim (fun h => h ▸ hx0) (hr x)⟩
      · rintro ⟨ha, hall⟩
        exact ⟨ha, hall x0 (.inl rfl), fun x hx => hall x (.inr hx)⟩

lemma authorized_iff {now req evs} : Authorized now req evs ↔ ∃ x, CountsUntil now req evs x := by
  simpa [Authorized, deviceValidity] using (foldl_profileStep now evs req (false, 0)).1

lemma deviceValidity_le_iff {now req evs} :
    (deviceValidity now req evs).2 ≤ y ↔ ∀ x, CountsUntil now req evs x → x ≤ y := by
  simpa [deviceValidity] using (foldl_profileStep now evs req (false, 0)).2 y

lemma countsUntil_later {now req evs} (hle : now ≤ t) :
    CountsUntil t req evs x ↔ CountsUntil now req evs x ∧ t < x := by
  constructor
  · rintro ⟨p, hp, e, he, hs, hrev, r, hr, rfl, hlt⟩
    exact ⟨⟨p, hp, e, he, hs, hrev, r, hr, rfl, lt_of_le_of_lt hle hlt⟩, hlt⟩
  · rintro ⟨⟨p, hp, e, he, hs, hrev, r, hr, rfl, -⟩, hlt⟩
    exact ⟨p, hp, e, he, hs, hrev, r, hr, rfl, hlt⟩

/-- **How long a device stays authorized**: exactly until its `deviceValidUntil`. -/
theorem authorized_later_iff {now req evs} (hle : now ≤ t) :
    Authorized t req evs ↔ t < (deviceValidity now req evs).2 := by
  rw [authorized_iff]
  constructor
  · rintro ⟨x, hx⟩
    obtain ⟨hx, hlt⟩ := (countsUntil_later hle).1 hx
    exact lt_of_lt_of_le hlt (deviceValidity_le_iff.1 le_rfl x hx)
  · intro hlt
    by_contra hn
    have ha : (deviceValidity now req evs).2 ≤ t := deviceValidity_le_iff.2 fun x hx => by
        by_contra hgt
        exact hn ⟨x, (countsUntil_later hle).2 ⟨hx, Nat.lt_of_not_le hgt⟩⟩
    exact absurd hlt (Nat.not_lt.2 ha)

/-! ### One entry -/

section Entry

variable (now : Time) (req : List Profile) (evs : Uuid → List Evaluation)

lemma foldl_deviceStep_fst (ds : List (Uuid × String)) (acc : List String × Time) :
    (ds.foldl (deviceStep now req evs) acc).1 = acc.1 ++
      (ds.filter fun d => Authorized now req (evs d.1)).map Prod.snd := by
  induction ds generalizing acc with
  | nil => simp
  | cons d rest ih =>
    rw [List.foldl_cons, ih]
    by_cases ha : Authorized now req (evs d.1)
    · have hv : (deviceValidity now req (evs d.1)).1 = true := ha
      simp [deviceStep, hv, ha]
    · have hv : (deviceValidity now req (evs d.1)).1 = false := by simpa [Authorized] using ha
      simp [deviceStep, hv, ha]

lemma foldl_deviceStep_snd (ds : List (Uuid × String)) (acc : List String × Time) (y : Time) :
    (ds.foldl (deviceStep now req evs) acc).2 ≤ y ↔ acc.2 ≤ y ∧
      ∀ d ∈ ds, Authorized now req (evs d.1) → (deviceValidity now req (evs d.1)).2 ≤ y := by
  induction ds generalizing acc with
  | nil => simp
  | cons d rest ih =>
    rw [List.foldl_cons, ih, List.forall_mem_cons, ← and_assoc]
    refine and_congr_left fun _ => ?_
    unfold deviceStep
    simp only [Authorized]
    split
    · next hv =>
      simp only [hv, true_implies]
      exact later_le_iff _ _ _
    · next hv => simp [hv]

variable {now req evs}

lemma applyPosture_gated (hr : req ≠ []) :
    (applyPosture now ds req evs).1 =
      (ds.filter fun d => Authorized now req (evs d.1)).map Prod.snd := by
  simp [applyPosture, hr, foldl_deviceStep_fst]

lemma applyPosture_isGated : (applyPosture now ds req evs).2.2 = true ↔ req ≠ [] := by
  unfold applyPosture
  split <;> simp_all

lemma applyPosture_validUntil_le (hr : req ≠ []) :
    (applyPosture now ds req evs).2.1 ≤ y ↔ ∀ d ∈ ds, Authorized now req (evs d.1) →
        (deviceValidity now req (evs d.1)).2 ≤ y := by
  simp [applyPosture, hr, foldl_deviceStep_snd]

end Entry

end Zecurity.Posture
