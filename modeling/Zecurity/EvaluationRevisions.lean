import Zecurity.FiniteMap
import Zecurity.PostureEvaluation
import Zecurity.Runs

/-!
Evaluations against a profile whose requirements change meanwhile
(`controller/internal/posture/evaluate.go`, with `AddRequirement`, `RemoveRequirement`,
`ListRequirements`, `UpsertEvaluation` of `store.go` and `UpdateCountryRule` of `country.go`).

A change of the requirements is one transaction with its bump of the revision, under the lock of the
profile's row. An evaluation reads the revision with the profiles, the requirements after that, and
stores its row at last, whatever row is there; it holds the lock of its device throughout, and may
fail everywhere. What it reads of the device comes with the step that lists the profiles.
-/

namespace Zecurity.EvaluationRevisions

open FiniteMap Posture PostureEvaluation Runs

/-! ### The system -/

/-- What an evaluation reads of its device. -/
structure Basis where
  report : Report
  approved : Bool
  netObs : Option NetworkObservation
  now : Time

def Basis.judgement (b : Basis) (requirements : List Requirement) : Judgement where
  now := b.now
  report := b.report
  requirements := fun _ => requirements
  observations := observationByCheck b.report b.approved b.netObs b.now

inductive Phase
  | locked
  | listed (basis : Basis) (profile : Profile)
  | required (basis : Basis) (profile : Profile) (requirements : List Requirement)
  | stored

/-- A row, with what its evaluation has read of the device. -/
structure Stored where
  row : EvaluationRow
  basis : Basis

structure State where
  profile : Profile
  requirements : List Requirement
  evaluations : Map Uuid Stored
  /-- the evaluations that hold the locks of their devices -/
  calls : Map Uuid Phase

def start (profile : Profile) (requirements : List Requirement) : State :=
  ⟨profile, requirements, ∅, ∅⟩

namespace State

variable (s : State)

/-- The requirements are replaced, and the revision is bumped. -/
def revise (requirements : List Requirement) : State :=
  { s with
    profile := { s.profile with revision := s.profile.revision + 1 }
    requirements := requirements }

def addRequirement (r : Requirement) : Except String State :=
  if r.checkId ∈ s.requirements.map Requirement.checkId then
    .error "duplicate posture requirement"
  else .ok (s.revise (s.requirements ++ [r]))

def removeRequirement (checkId : String) (inUse : Bool) : Except String State :=
  let remaining := s.requirements.filter fun r => r.checkId ≠ checkId
  if checkId ∉ s.requirements.map Requirement.checkId then .error "posture record not found"
  else if remaining = [] ∧ inUse then
    .error "cannot remove the last requirement of a device profile that resource policies use"
  else .ok (s.revise remaining)

def updateCountryRule (rule : CountryRule) : Except String State :=
  if checkNetworkCountry ∈ s.requirements.map Requirement.checkId then
    .ok (s.revise (s.requirements.map fun r =>
      if r.checkId = checkNetworkCountry then { r with countries := some rule } else r))
  else .error "posture record not found"

/-- The parameters of a country requirement are decoded, to an empty rule where none was given;
those of the others are not. -/
def listRequirements : List Requirement :=
  let read := s.requirements.map fun r =>
    if r.checkId = checkNetworkCountry then
      { r with countries := some (r.countries.getD ⟨[], []⟩) }
    else { r with countries := none }
  read.insertionSort fun r r' => r.checkId ≤ r'.checkId

def setCall (d : Uuid) (phase : Phase) : State := { s with calls := s.calls.insert d phase }

def upsertEvaluation (d : Uuid) (e : Stored) : State :=
  { s with evaluations := s.evaluations.insert d e }

end State

inductive Action
  | addRequirement (r : Requirement)
  | removeRequirement (checkId : String) (inUse : Bool)
  | updateCountryRule (rule : CountryRule)
  | lock (d : Uuid)
  | listProfiles (d : Uuid) (basis : Basis)
  | listRequirements (d : Uuid)
  | upsertEvaluation (d : Uuid)
  | unlock (d : Uuid)

def step (s : State) : Action → Option State
  | .addRequirement r => (s.addRequirement r).toOption
  | .removeRequirement checkId inUse => (s.removeRequirement checkId inUse).toOption
  | .updateCountryRule rule => (s.updateCountryRule rule).toOption
  | .lock d => if s.calls.lookup d = none then some (s.setCall d .locked) else none
  | .listProfiles d basis =>
    match s.calls.lookup d with
    | some .locked => some (s.setCall d (.listed basis s.profile))
    | _ => none
  | .listRequirements d =>
    match s.calls.lookup d with
    | some (.listed basis profile) =>
      some (s.setCall d (.required basis profile s.listRequirements))
    | _ => none
  | .upsertEvaluation d =>
    match s.calls.lookup d with
    | some (.required basis profile requirements) =>
      let e := ⟨(basis.judgement requirements).row profile, basis⟩
      some ((s.upsertEvaluation d e).setCall d .stored)
    | _ => none
  | .unlock d => some { s with calls := s.calls.erase d }

/-! ### The invariant -/

/-- A row of the current revision is what the current requirements give for its report. -/
def Current (s : State) : Prop :=
  ∀ d e, s.evaluations.lookup d = some e → e.row.profileRevision = s.profile.revision →
    e.row = (e.basis.judgement s.listRequirements).row s.profile

/-- No row is replaced by one of an older revision. -/
def Newer (s s' : State) : Prop :=
  ∀ d e e', s.evaluations.lookup d = some e → s'.evaluations.lookup d = some e' →
    e.row.profileRevision ≤ e'.row.profileRevision

def Phase.profile : Phase → Option Profile
  | .listed _ profile | .required _ profile _ => some profile
  | _ => none

def Phase.requirements : Phase → Option (List Requirement)
  | .required _ _ requirements => some requirements
  | _ => none

/-- What an evaluation has read is of a revision that no stored row is ahead of; if the revision is
the current one still, so is everything that was read. -/
structure Fresh (s : State) (d : Uuid) (phase : Phase) (profile : Profile) : Prop where
  stored : ∀ e, s.evaluations.lookup d = some e → e.row.profileRevision ≤ profile.revision
  le : profile.revision ≤ s.profile.revision
  current : profile.revision = s.profile.revision →
    profile = s.profile ∧ ∀ l, phase.requirements = some l → l = s.listRequirements

structure Inv (s : State) : Prop where
  le : ∀ d e, s.evaluations.lookup d = some e → e.row.profileRevision ≤ s.profile.revision
  current : Current s
  calls : ∀ d phase profile, s.calls.lookup d = some phase → phase.profile = some profile →
    Fresh s d phase profile

variable {s s' : State} {d : Uuid}

lemma inv_start (profile : Profile) (requirements : List Requirement) :
    Inv (start profile requirements) := by
  constructor <;> simp [start, Current]

lemma Inv.revise (h : Inv s) (requirements : List Requirement) : Inv (s.revise requirements) := by
  have hlt : s.profile.revision < (s.revise requirements).profile.revision := Int.lt_succ _
  refine ⟨fun d e he => ?_, fun d e he heq => ?_, fun d phase profile hd hp => ?_⟩
  · have := h.le d e he
    omega
  · have := h.le d e he
    omega
  · obtain ⟨hs, hle, -⟩ := h.calls d phase profile hd hp
    refine ⟨hs, by omega, fun heq => ?_⟩
    omega

lemma Inv.setCall (h : Inv s) {phase}
    (hn : ∀ profile, phase.profile = some profile → Fresh s d phase profile) :
    Inv (s.setCall d phase) := by
  refine { h with calls := fun d' p profile hd' hp => ?_ }
  rcases lookup_insert_eq_some.1 hd' with ⟨rfl, rfl⟩ | ⟨-, hold⟩
  · exact { hn profile hp with }
  · exact { h.calls d' p profile hold hp with }

lemma newer_of_eq (h : s'.evaluations = s.evaluations) : Newer s s' := by
  intro d e e' he he'
  rw [h, he, Option.some.injEq] at he'
  rw [he']

section Upsert

variable {basis : Basis} {profile : Profile} {requirements : List Requirement}

lemma Inv.upsertEvaluation (h : Inv s)
    (hd : s.calls.lookup d = some (.required basis profile requirements)) :
    Inv ((s.upsertEvaluation d ⟨(basis.judgement requirements).row profile, basis⟩).setCall d
      .stored) := by
  obtain ⟨-, hle, hc⟩ := h.calls d _ profile hd rfl
  refine ⟨forall_lookup_insert h.le hle, fun d' e he heq => ?_, fun d' p q hd' hq => ?_⟩
  · rcases lookup_insert_eq_some.1 he with ⟨rfl, rfl⟩ | ⟨-, hold⟩
    · obtain ⟨hp, hr⟩ := hc heq
      rw [hp, hr requirements rfl]
      rfl
    · exact h.current d' e hold heq
  · rcases lookup_insert_eq_some.1 hd' with ⟨rfl, rfl⟩ | ⟨hne, hold⟩
    · cases hq
    · obtain ⟨hs, hle', hc'⟩ := h.calls d' p q hold hq
      refine ⟨fun e he => hs e ?_, hle', hc'⟩
      exact (AList.lookup_insert_ne hne).symm.trans he

lemma Inv.newer_upsertEvaluation (h : Inv s)
    (hd : s.calls.lookup d = some (.required basis profile requirements)) :
    Newer s ((s.upsertEvaluation d ⟨(basis.judgement requirements).row profile, basis⟩).setCall d
      .stored) := by
  intro d' e e' he he'
  rcases lookup_insert_eq_some.1 he' with ⟨rfl, rfl⟩ | ⟨-, hold⟩
  · exact (h.calls d' _ profile hd rfl).stored e he
  · cases he.symm.trans hold
    exact le_rfl

end Upsert

lemma inv_step {a} (h : Inv s) (hs : step s a = some s') : Inv s' ∧ Newer s s' := by
  cases a <;> dsimp only [step] at hs
  case addRequirement r =>
    simp only [State.addRequirement] at hs
    split at hs <;> cases hs
    exact ⟨h.revise _, newer_of_eq rfl⟩
  case removeRequirement checkId inUse =>
    simp only [State.removeRequirement] at hs
    split at hs
    · cases hs
    · split at hs <;> cases hs
      exact ⟨h.revise _, newer_of_eq rfl⟩
  case updateCountryRule rule =>
    simp only [State.updateCountryRule] at hs
    split at hs <;> cases hs
    exact ⟨h.revise _, newer_of_eq rfl⟩
  case lock d =>
    obtain ⟨-, rfl⟩ := Option.ite_some_none_eq_some.1 hs
    exact ⟨h.setCall (by simp [Phase.profile]), newer_of_eq rfl⟩
  case listProfiles d basis =>
    split at hs <;> cases hs
    refine ⟨h.setCall ?_, newer_of_eq rfl⟩
    rintro _ ⟨⟩
    exact ⟨h.le d, le_rfl, by simp [Phase.requirements]⟩
  case listRequirements d =>
    split at hs
    next basis profile hd =>
      cases hs
      refine ⟨h.setCall ?_, newer_of_eq rfl⟩
      rintro _ ⟨⟩
      obtain ⟨hst, hle, hc⟩ := h.calls d _ profile hd rfl
      exact ⟨hst, hle, fun heq => ⟨(hc heq).1, by simp [Phase.requirements]⟩⟩
    next => cases hs
  case upsertEvaluation d =>
    split at hs
    next hd =>
      cases hs
      exact ⟨h.upsertEvaluation hd, h.newer_upsertEvaluation hd⟩
    next => cases hs
  case unlock d =>
    cases hs
    refine ⟨{ h with calls := fun d' p profile hd' hp => ?_ }, newer_of_eq rfl⟩
    exact { h.calls d' p profile (lookup_erase_eq_some.1 hd').1 hp with }

/-- After every step of every run, an evaluation at the current revision reflects the current
requirements; and no step replaces an evaluation by one of an older revision. -/
theorem evaluations_reflect_revision (profile : Profile) (requirements : List Requirement)
    (acts : List Action) :
    Always step (fun s _ s' => Current s' ∧ Newer s s') (start profile requirements) acts := by
  refine always_of_inv (fun s a s' h hs => (inv_step h hs).1) (fun s a s' h hs => ?_)
    (inv_start profile requirements)
  obtain ⟨hi, hn⟩ := inv_step h hs
  exact ⟨hi.current, hn⟩

end Zecurity.EvaluationRevisions
