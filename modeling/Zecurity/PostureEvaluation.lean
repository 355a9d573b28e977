import Mathlib.Data.List.MinMax
import Mathlib.Data.List.Sort
import Zecurity.Posture

/-!
The evaluation of a device against the profiles of its workspace
(`controller/internal/posture/evaluate.go`, `controller/internal/posture/country.go`, and the
tables behind them in `controller/internal/posture/store.go`).

An evaluation reads the device's latest report, judges every profile on it, and stores one row
for each profile, replacing the row there. It reports a change of policy where a profile had no
row yet, or where the row's verdict, revision or reason differs from the new one. A database
failure in the middle keeps the rows already stored and reports no change.

A row carries the `received_at` of its report; where the report is deleted the row's reference
becomes null. `LatestReport` takes the first of two reports of one instant.
-/

namespace Zecurity.PostureEvaluation

open List Posture

def checkDeviceApproved : String := "zecurity.device.approved"
def checkNetworkCountry : String := "zecurity.network.country"

inductive ObservationStatus
  | pass
  | fail
  | unsupported
  | unknown
  | error
  deriving DecidableEq

def ObservationStatus.text : ObservationStatus → String
  | .pass => "PASS"
  | .fail => "FAIL"
  | .unsupported => "UNSUPPORTED"
  | .unknown => "UNKNOWN"
  | .error => "ERROR"

structure Observation where
  checkId : String
  status : ObservationStatus
  detail : Option String

structure Report where
  id : Uuid
  deviceId : Uuid
  receivedAt : Time
  observations : List Observation

structure CountryRule where
  allow : List String
  deny : List String
  deriving DecidableEq

structure Requirement where
  checkId : String
  allowUnsupported : Bool
  /-- the rule of a country requirement -/
  countries : Option CountryRule
  deriving DecidableEq

structure NetworkObservation where
  country : String
  observedAt : Time

structure ProfileResult where
  profileId : Uuid
  satisfied : Bool
  reason : String
  revision : Int
  expiresAt : Time

def stringValue (value : Option String) : String := value.getD ""

/-! ### The checks -/

def approvalObservation (approved : Bool) : Observation :=
  if approved then ⟨checkDeviceApproved, .pass, some "approved by an admin"⟩
  else ⟨checkDeviceApproved, .fail, some "device not approved by an admin"⟩

/-- A missing or stale sighting, or an unknown country, is `UNKNOWN`. -/
def countryObservation (obs : Option NetworkObservation) (now : Time) : Observation :=
  match obs with
  | none => ⟨checkNetworkCountry, .unknown, some "device not seen yet"⟩
  | some obs =>
    if now - obs.observedAt > maxReportAge then
      ⟨checkNetworkCountry, .unknown, some "device location is stale"⟩
    else if obs.country = "" then
      ⟨checkNetworkCountry, .unknown, some "device location unknown (no country for its address)"⟩
    else ⟨checkNetworkCountry, .pass, some obs.country⟩

def CountryRule.allows (r : CountryRule) (country : String) : Bool :=
  if country = "" ∨ country ∈ r.deny then false else r.allow.isEmpty || country ∈ r.allow

/-- `countryRequirementSatisfied`, as the reason it fails with. -/
def countryFailureReason (requirement : Requirement) (observation : Observation) : Option String :=
  match requirement.countries with
  | none => some ("check " ++ checkNetworkCountry ++ " has no country rule")
  | some rule =>
    match observation.status, observation.detail with
    | .pass, some country =>
      if rule.allows country then none
      else if country ∈ rule.deny then
        some ("check " ++ checkNetworkCountry ++ ": " ++ country ++ " is denied")
      else some ("check " ++ checkNetworkCountry ++ ": " ++ country ++ " is not allowed")
    | _, detail => some ("check " ++ checkNetworkCountry ++ ": " ++ stringValue detail)

def requirementSatisfied (requirement : Requirement) (observation : Observation) : Bool :=
  match observation.status with
  | .pass => true
  | .unsupported => requirement.allowUnsupported
  | _ => false

def isSpace (c : Char) : Bool :=
  let n := c.toNat
  (9 ≤ n && n ≤ 13) || n == 0x20 || n == 0x85 || n == 0xA0 || n == 0x1680 ||
    (0x2000 ≤ n && n ≤ 0x200a) || n == 0x2028 || n == 0x2029 || n == 0x202f || n == 0x205f ||
    n == 0x3000

def trimSpace (s : String) : String :=
  String.ofList ((s.toList.dropWhile isSpace).reverse.dropWhile isSpace).reverse

def requirementFailureReason (requirement : Requirement) (observation : Observation) : String :=
  if observation.status = .unsupported ∧ requirement.allowUnsupported = false then
    "check " ++ requirement.checkId ++ " is unsupported"
  else
    let detail :=
      match observation.detail with
      | none => ""
      | some d => if trimSpace d ≠ "" then ": " ++ trimSpace d else ""
    "check " ++ requirement.checkId ++ ": " ++ observation.status.text ++ detail

/-- The loop over the requirements: the reason of the first that fails. -/
def failureReason (observations : String → Option Observation) : List Requirement → Option String
  | [] => none
  | requirement :: rest =>
    match observations requirement.checkId with
    | none => some ("missing required check " ++ requirement.checkId)
    | some observation =>
      if requirement.checkId = checkNetworkCountry then
        match countryFailureReason requirement observation with
        | none => failureReason observations rest
        | some reason => some reason
      else if requirementSatisfied requirement observation then failureReason observations rest
      else some (requirementFailureReason requirement observation)

def evaluateProfile (now reportReceivedAt : Time) (profile : Profile)
    (requirements : List Requirement) (observations : String → Option Observation) :
    ProfileResult :=
  let expiresAt := reportReceivedAt + maxReportAge
  if requirements = [] then
    ⟨profile.id, false, "profile has no requirements", profile.revision, expiresAt⟩
  else if expiresAt < now then
    ⟨profile.id, false, "posture report is stale", profile.revision, expiresAt⟩
  else
    match failureReason observations requirements with
    | some reason => ⟨profile.id, false, reason, profile.revision, expiresAt⟩
    | none => ⟨profile.id, true, "all requirements satisfied", profile.revision, expiresAt⟩

/-- `observationByCheck`: what the report says, a later observation of one check over an
earlier one, and the two checks of the server over both. -/
def observationByCheck (report : Report) (approved : Bool) (netObs : Option NetworkObservation)
    (now : Time) (check : String) : Option Observation :=
  if check = checkNetworkCountry then some (countryObservation netObs now)
  else if check = checkDeviceApproved then some (approvalObservation approved)
  else report.observations.reverse.find? fun o => o.checkId = check

/-! ### The tables -/

/-- A row of `device_profile_evaluations`, with its report's `received_at`. -/
structure EvaluationRow extends Evaluation where
  deviceId : Uuid
  reason : Option String
  deriving DecidableEq

structure Tables where
  reports : List Report
  evaluations : List EvaluationRow
  approved : Uuid → Bool
  network : Uuid → Option NetworkObservation

def latestReport (t : Tables) (deviceId : Uuid) : Option Report :=
  (t.reports.filter fun r => r.deviceId = deviceId).argmax Report.receivedAt

def latestEvaluation (t : Tables) (deviceId profileId : Uuid) : Option EvaluationRow :=
  t.evaluations.find? fun e => e.deviceId = deviceId ∧ e.profileId = profileId

/-- `ON CONFLICT (device_id, profile_id) DO UPDATE` -/
def upsertEvaluation (t : Tables) (row : EvaluationRow) : Tables :=
  { t with evaluations := row :: t.evaluations.filter fun e =>
      ¬(e.deviceId = row.deviceId ∧ e.profileId = row.profileId) }

def deviceIdsWithReports (t : Tables) : List Uuid :=
  ((t.reports.map Report.deviceId).insertionSort (· ≤ ·)).dedup

def evaluationsForDevices (t : Tables) (deviceIds : List Uuid) (deviceId : Uuid) :
    List Evaluation :=
  if deviceId ∈ deviceIds then
    (t.evaluations.filter fun e => e.deviceId = deviceId).map EvaluationRow.toEvaluation
  else []

/-- `InsertReport`; a second report of one id is refused. -/
def insertReport (t : Tables) (report : Report) : Tables :=
  if report.id ∈ t.reports.map Report.id then t else { t with reports := t.reports ++ [report] }

/-- `DeleteExpiredReports`: the rows of a deleted report lose their reference to it. -/
def deleteExpiredReports (t : Tables) (cutoff : Time) : Tables :=
  { t with
    reports := t.reports.filter fun r => ¬ r.receivedAt < cutoff
    evaluations := t.evaluations.map fun e =>
      { e with reportReceivedAt := e.reportReceivedAt.filter fun x => ¬ x < cutoff } }

/-- The evaluations of profiles that are gone are deleted with them. -/
def deleteOtherProfiles (t : Tables) (profileIds : List Uuid) : Tables :=
  { t with evaluations := t.evaluations.filter fun e => e.profileId ∈ profileIds }

/-! ### The evaluation of a device -/

inductive ReadStage
  | latestReport
  | observations
  | profiles
  | approval
  | networkObservation

def ReadStage.text : ReadStage → String
  | .latestReport => "load latest report for evaluation: "
  | .observations => "load observations for evaluation: "
  | .profiles => "load profiles for evaluation: "
  | .approval => "load device approval for evaluation: "
  | .networkObservation => "load network observation for evaluation: "

/-- The database operations for one profile. -/
inductive ProfileStage
  | requirements
  | previous
  | upsert

def ProfileStage.text (profileId : Uuid) : ProfileStage → String
  | .requirements => "load requirements for profile " ++ profileId ++ ": "
  | .previous => "load previous evaluation for profile " ++ profileId ++ ": "
  | .upsert => "store evaluation for profile " ++ profileId ++ ": "

/-- A failure of the database: in a read before the loop, or at the profile that has `index`
profiles before it. -/
inductive Fault
  | read (stage : ReadStage) (err : String)
  | profile (index : ℕ) (stage : ProfileStage) (err : String)

/-- The profiles whose evaluation is stored before the failure. -/
def reached (profiles : List Profile) : Option Fault → List Profile
  | none => profiles
  | some (.read _ _) => []
  | some (.profile index _ _) => profiles.take index

/-- What the loop over the profiles reads. -/
structure Judgement where
  now : Time
  report : Report
  requirements : Uuid → List Requirement
  observations : String → Option Observation

def Judgement.result (j : Judgement) (profile : Profile) : ProfileResult :=
  evaluateProfile j.now j.report.receivedAt profile (j.requirements profile.id) j.observations

def Judgement.row (j : Judgement) (profile : Profile) : EvaluationRow where
  profileId := profile.id
  satisfied := (j.result profile).satisfied
  profileRevision := profile.revision
  reportReceivedAt := some j.report.receivedAt
  deviceId := j.report.deviceId
  reason := some (j.result profile).reason

/-- The result changes what the stored evaluation says. -/
def transition (previous : Option EvaluationRow) (profile : Profile) (result : ProfileResult) :
    Bool :=
  match previous with
  | none => true
  | some previous =>
    previous.satisfied != result.satisfied || previous.profileRevision != profile.revision ||
      stringValue previous.reason != result.reason

/-- The loop over the profiles; `fault` is how many profiles are left before the one at which
the database fails. -/
def evaluateProfiles (j : Judgement) :
    List Profile → Option (ℕ × ProfileStage × String) → Tables →
      Tables × Except String (List ProfileResult × Bool)
  | [], _, t => (t, .ok ([], false))
  | profile :: rest, fault, t =>
    match fault with
    | some (0, stage, err) => (t, .error (stage.text profile.id ++ err))
    | _ =>
      let previous := latestEvaluation t j.report.deviceId profile.id
      let next := evaluateProfiles j rest (fault.map fun f => (f.1 - 1, f.2))
        (upsertEvaluation t (j.row profile))
      (next.1, next.2.map fun r => (j.result profile :: r.1,
        transition previous profile (j.result profile) || r.2))

def judgement (t : Tables) (requirements : Uuid → List Requirement) (now : Time) (report : Report) :
    Judgement where
  now := now
  report := report
  requirements := requirements
  observations := observationByCheck report (t.approved report.deviceId)
    (t.network report.deviceId) now

/-- `evaluateDevice`: the tables after it, and its results with `policyChanged`. -/
def evaluateDevice (t : Tables) (profiles : List Profile) (requirements : Uuid → List Requirement)
    (now : Time) (deviceId : Uuid) (fault : Option Fault) :
    Tables × Except String (List ProfileResult × Bool) :=
  match fault with
  | some (.read stage err) => (t, .error (stage.text ++ err))
  | some (.profile index stage err) =>
    match latestReport t deviceId with
    | none => (t, .error (ReadStage.latestReport.text ++ "posture record not found"))
    | some report =>
      evaluateProfiles (judgement t requirements now report) profiles (some (index, stage, err)) t
  | none =>
    match latestReport t deviceId with
    | none => (t, .error (ReadStage.latestReport.text ++ "posture record not found"))
    | some report => evaluateProfiles (judgement t requirements now report) profiles none t

/-- Whether the caller is to notify a policy change. -/
def policyChanged (result : Except String (List ProfileResult × Bool)) : Bool :=
  match result with
  | .ok r => r.2
  | .error _ => false

/-- The loop of `reevaluateDevices`, which goes on after a device that failed. -/
def reevaluateDevices (profiles : List Profile) (requirements : Uuid → List Requirement)
    (now : Time) (fault : Uuid → Option Fault) : List Uuid → Tables → Tables × Bool
  | [], t => (t, false)
  | deviceId :: rest, t =>
    let one := evaluateDevice t profiles requirements now deviceId (fault deviceId)
    let others := reevaluateDevices profiles requirements now fault rest one.1
    (others.1, policyChanged one.2 || others.2)

/-! ### Evaluations that count -/

/-- The stored evaluation of the profile is satisfied, at the profile's revision. -/
def Satisfied (t : Tables) (deviceId : Uuid) (profile : Profile) : Prop :=
  ∃ row, latestEvaluation t deviceId profile.id = some row ∧ row.satisfied = true ∧
    row.profileRevision = profile.revision

/-- And its report has not expired at `time`. -/
def Counts (t : Tables) (time : Time) (deviceId : Uuid) (profile : Profile) : Prop :=
  ∃ row, latestEvaluation t deviceId profile.id = some row ∧ row.satisfied = true ∧
    row.profileRevision = profile.revision ∧
    ∃ received, row.reportReceivedAt = some received ∧ time < received + maxReportAge

/-- The device's stored evaluations that are satisfied have reports that had not expired at
`time`; where the database fails on the way, so have the evaluations of all profiles before. -/
def CountedAt (t : Tables) (time : Time) (profiles : List Profile) (deviceId : Uuid)
    (fault : Option Fault) : Prop :=
  ∀ profile ∈ reached profiles fault,
    fault ≠ none ∨ Satisfied t deviceId profile → Counts t time deviceId profile

variable {profileId : Uuid} {fault : Option (ℕ × ProfileStage × String)}

lemma Counts.earlier {t time now d profile} (h : Counts t now d profile)
    (hle : time ≤ now) : Counts t time d profile := by
  obtain ⟨row, hrow, hs, hrev, received, hr, hlt⟩ := h
  exact ⟨row, hrow, hs, hrev, received, hr, lt_of_le_of_lt hle hlt⟩

variable {rep : Report} {t' : Tables} {rest : List Profile} {ids : List Uuid}

lemma find?_evaluationsForDevices {t d} (hid : d ∈ ids) :
    (evaluationsForDevices t ids d).find? (fun e => e.profileId = profileId) =
      (latestEvaluation t d profileId).map EvaluationRow.toEvaluation := by
  rw [evaluationsForDevices, if_pos hid, List.find?_map, latestEvaluation, List.find?_filter]
  congr 2
  funext e
  simp

lemma authorized_of_counts {t time d pr req} (h : Counts t time d pr) (hid : d ∈ ids)
    (hreq : pr ∈ req) : Authorized time req (evaluationsForDevices t ids d) := by
  obtain ⟨row, hrow, hs, hrev, received, hr, hlt⟩ := h
  refine authorized_iff.2 ⟨received + maxReportAge, pr, hreq, row.toEvaluation, ?_, hs,
    hrev, received, hr, rfl, hlt⟩
  rw [find?_evaluationsForDevices hid, hrow]
  rfl

/-! ### What the operations store -/

lemma latestEvaluation_upsert (t : Tables) (row : EvaluationRow) (d profileId : Uuid) :
    latestEvaluation (upsertEvaluation t row) d profileId =
      if row.deviceId = d ∧ row.profileId = profileId then some row
      else latestEvaluation t d profileId := by
  unfold latestEvaluation upsertEvaluation
  grind

lemma latestEvaluation_row (j : Judgement) (pr : Profile) (t : Tables) (d profileId : Uuid) :
    latestEvaluation (upsertEvaluation t (j.row pr)) d profileId =
      if j.report.deviceId = d ∧ pr.id = profileId then some (j.row pr)
      else latestEvaluation t d profileId :=
  latestEvaluation_upsert t (j.row pr) d profileId

lemma counts_congr {t time d profile}
    (h : latestEvaluation t d profile.id = latestEvaluation t' d profile.id) :
    Counts t time d profile ↔ Counts t' time d profile := by
  unfold Counts
  rw [h]

lemma satisfied_congr {t d profile}
    (h : latestEvaluation t d profile.id = latestEvaluation t' d profile.id) :
    Satisfied t d profile ↔ Satisfied t' d profile := by
  unfold Satisfied
  rw [h]

lemma evaluateProfiles_cons (j : Judgement) (pr : Profile) (rest : List Profile)
    (h : ∀ f, fault = some f → f.1 ≠ 0) (t : Tables) :
    evaluateProfiles j (pr :: rest) fault t =
      let next := evaluateProfiles j rest (fault.map fun f => (f.1 - 1, f.2))
        (upsertEvaluation t (j.row pr))
      (next.1, next.2.map fun r => (j.result pr :: r.1,
        transition (latestEvaluation t j.report.deviceId pr.id) pr (j.result pr) ||
          r.2)) := by
  rw [evaluateProfiles]
  intro stage err hf
  exact h _ hf rfl

lemma latestEvaluation_evaluateProfiles (j : Judgement) {d} :
    ∀ {profs : List Profile} (fault : Option (ℕ × ProfileStage × String)) (t : Tables),
      d ≠ j.report.deviceId ∨ profileId ∉ profs.map Profile.id →
      latestEvaluation (evaluateProfiles j profs fault t).1 d profileId =
        latestEvaluation t d profileId
  | [], _, _, _ => rfl
  | pr :: rest, fault, t, ho => by
    by_cases hs : ∃ fail, fault = some (0, fail)
    · obtain ⟨fail, rfl⟩ := hs
      rfl
    · rw [evaluateProfiles_cons j pr rest (fun f hf h0 => hs ⟨f.2, by rw [hf, ← h0]⟩)]
      simp only [map_cons, mem_cons, not_or] at ho
      rw [latestEvaluation_evaluateProfiles j _ _ (ho.imp_right And.right),
        latestEvaluation_row, if_neg]
      rintro ⟨hd, hp⟩
      exact ho.elim (fun h => h hd.symm) fun h => h.1 hp.symm

lemma satisfied_of_not_transition {prev pr result}
    (h : transition prev pr result = false) (hs : result.satisfied = true) :
    ∃ row, prev = some row ∧ row.satisfied = true ∧ row.profileRevision = pr.revision := by
  cases prev with
  | none => cases h
  | some row =>
    simp only [transition, hs, Bool.or_eq_false_iff, bne_eq_false_iff_eq] at h
    exact ⟨row, rfl, h.1.1, h.1.2⟩

lemma exists_ok_evaluateProfiles (j : Judgement) :
    ∀ (profs : List Profile) (t : Tables), ∃ r, (evaluateProfiles j profs none t).2 = .ok r
  | [], _ => ⟨_, rfl⟩
  | first :: rest, t => by
    obtain ⟨r, hr⟩ := exists_ok_evaluateProfiles j rest (upsertEvaluation t (j.row first))
    rw [evaluateProfiles_cons j first rest (by simp)]
    simp only [Option.map_none, hr]
    exact ⟨_, rfl⟩

lemma policyChanged_map_eq_false {result} {f : List ProfileResult → List ProfileResult} {b}
    (h : policyChanged (result.map fun r => (f r.1, b || r.2)) = false) :
    ((∃ r, result = .ok r) → b = false) ∧ policyChanged result = false := by
  cases result with
  | error err =>
    refine ⟨?_, rfl⟩
    rintro ⟨r, hr⟩
    cases hr
  | ok r =>
    have hor : (b || r.2) = false := h
    exact ⟨fun _ => (Bool.or_eq_false_iff.1 hor).1, (Bool.or_eq_false_iff.1 hor).2⟩

lemma first_mem_stored {first} (hgo : ∀ f, fault = some f → f.1 ≠ 0) :
    first ∈ fault.elim (first :: rest) fun f => (first :: rest).take f.1 := by
  cases fault with
  | none => exact mem_cons_self
  | some f =>
    obtain ⟨n, hn⟩ := Nat.exists_eq_succ_of_ne_zero (hgo f rfl)
    simp [hn]

lemma mem_stored_of_rest (first : Profile) {p} (hgo : ∀ f, fault = some f → f.1 ≠ 0)
    (hp : p ∈ (fault.map fun f => (f.1 - 1, f.2)).elim rest fun f => rest.take f.1) :
    p ∈ rest ∧ p ∈ fault.elim (first :: rest) fun f => (first :: rest).take f.1 := by
  cases fault with
  | none => exact ⟨hp, mem_cons_of_mem first hp⟩
  | some f =>
    refine ⟨mem_of_mem_take hp, ?_⟩
    obtain ⟨n, hn⟩ := Nat.exists_eq_succ_of_ne_zero (hgo f rfl)
    simp only [Option.map_some, Option.elim_some, hn, Nat.succ_eq_add_one, Nat.add_sub_cancel] at hp
    simp [hn, hp]

/-- Without a transition to notify, an evaluation counts only for a profile that counted
before, if that is so of the profiles that were satisfied before (of all, if the loop
fails). -/
lemma counts_of_evaluateProfiles (j : Judgement) {time deviceId pr} :
    ∀ {profs : List Profile} {fault : Option (ℕ × ProfileStage × String)} {t : Tables},
      (profs.map Profile.id).Nodup → policyChanged (evaluateProfiles j profs fault t).2 = false →
      (∀ p ∈ fault.elim profs fun f => profs.take f.1,
        fault ≠ none ∨ Satisfied t j.report.deviceId p → Counts t time j.report.deviceId p) →
      pr ∈ profs → Counts (evaluateProfiles j profs fault t).1 time deviceId pr →
      Counts t time deviceId pr
  | [], _, _, _, _, _, hm, _ => by cases hm
  | first :: rest, fault, t, hn, hch, hb, hm, hc => by
    by_cases hst : ∃ fail, fault = some (0, fail)
    · obtain ⟨fail, rfl⟩ := hst
      exact hc
    have hgo : ∀ f, fault = some f → f.1 ≠ 0 := fun f hf h0 => hst ⟨f.2, by rw [hf, ← h0]⟩
    obtain ⟨hfr, hrs⟩ := nodup_cons.1 hn
    rw [evaluateProfiles_cons j first rest hgo] at hch hc
    -- the rows of the other profiles are those before the first one was stored
    have ho : ∀ {d : Uuid} {p : Profile}, p ∈ rest →
        latestEvaluation (upsertEvaluation t (j.row first)) d p.id = latestEvaluation t d p.id := by
      intro d p hp
      rw [latestEvaluation_row, if_neg]
      rintro ⟨-, hid⟩
      exact hfr (hid ▸ mem_map_of_mem hp)
    obtain ⟨hu, hch⟩ := policyChanged_map_eq_false hch
    rcases mem_cons.1 hm with rfl | hm
    · -- the pr just stored
      rw [counts_congr (latestEvaluation_evaluateProfiles j _ _ (.inr hfr))] at hc
      by_cases hd : j.report.deviceId = deviceId
      · subst hd
        refine hb pr (first_mem_stored hgo) ?_
        cases fault with
        | some f => exact .inl (by simp)
        | none =>
          obtain ⟨row, hr, hsat, -⟩ := hc
          rw [latestEvaluation_row, if_pos ⟨rfl, rfl⟩, Option.some.injEq] at hr
          subst hr
          exact .inr (satisfied_of_not_transition (hu (exists_ok_evaluateProfiles j rest _)) hsat)
      · have hsm : latestEvaluation (upsertEvaluation t (j.row pr)) deviceId pr.id =
            latestEvaluation t deviceId pr.id := by
          rw [latestEvaluation_row, if_neg fun h => hd h.1]
        exact (counts_congr hsm).1 hc
    · refine (counts_congr (ho hm)).1
        (counts_of_evaluateProfiles j hrs hch (fun p hp hsat => ?_) hm hc)
      obtain ⟨hp', hs⟩ := mem_stored_of_rest first hgo hp
      rw [satisfied_congr (ho hp')] at hsat
      refine (counts_congr (ho hp')).2 (hb p hs (hsat.imp_left ?_))
      simp

/-! ### One device and several -/

lemma latestReport_deviceId {t deviceId} (h : latestReport t deviceId = some rep) :
    rep.deviceId = deviceId := by
  have hm := argmax_mem h
  simpa using (mem_filter.1 hm).2

section Device

variable {t : Tables} {profs : List Profile} {reqs : Uuid → List Requirement}
  {now time : Time} {deviceId d : Uuid} {profile : Profile}

lemma evaluateDevice_cases (t : Tables) (profs : List Profile) (reqs : Uuid → List Requirement)
    (now : Time) (d : Uuid) (fault : Option Fault) :
    (evaluateDevice t profs reqs now d fault).1 = t ∨
      ∃ j loopFault, j.report.deviceId = d ∧ evaluateDevice t profs reqs now d fault =
          evaluateProfiles j profs loopFault t ∧ (fault = none ↔ loopFault = none) ∧
        reached profs fault = loopFault.elim profs fun f => profs.take f.1 := by
  rcases fault with _ | (⟨stage, err⟩ | ⟨index, stage, err⟩)
  · rcases hr : latestReport t d with _ | report
    · exact .inl (by simp [evaluateDevice, hr])
    · refine .inr ⟨judgement t reqs now report, none, latestReport_deviceId hr, ?_, by simp, rfl⟩
      simp [evaluateDevice, hr]
  · exact .inl rfl
  · rcases hr : latestReport t d with _ | report
    · exact .inl (by simp [evaluateDevice, hr])
    · refine .inr ⟨judgement t reqs now report, some (index, stage, err),
        latestReport_deviceId hr, ?_, by simp, rfl⟩
      simp [evaluateDevice, hr]

lemma latestEvaluation_evaluateDevice {fault} (hne : d ≠ deviceId) :
    latestEvaluation (evaluateDevice t profs reqs now deviceId fault).1 d profileId =
      latestEvaluation t d profileId := by
  rcases evaluateDevice_cases t profs reqs now deviceId fault with hs | ⟨j, loopFault, hd, hl, -, -⟩
  · rw [hs]
  · rw [hl]
    exact latestEvaluation_evaluateProfiles j _ _ (.inl (hd ▸ hne))

lemma counts_of_evaluateDevice {fault} (hn : (profs.map Profile.id).Nodup)
    (hch : policyChanged (evaluateDevice t profs reqs now deviceId fault).2 = false)
    (hb : CountedAt t time profs deviceId fault) (hpr : profile ∈ profs)
    (hc : Counts (evaluateDevice t profs reqs now deviceId fault).1 time d profile) :
    Counts t time d profile := by
  rcases evaluateDevice_cases t profs reqs now deviceId fault with
    hs | ⟨j, loopFault, rfl, hl, hf, hr⟩
  · rwa [hs] at hc
  · rw [hl] at hch hc
    refine counts_of_evaluateProfiles j hn hch (fun p hp hsat => ?_) hpr hc
    exact hb p (hr ▸ hp) (hsat.imp_left (mt hf.1))

/-- **A batch without a notification.** If no evaluation of the batch is a transition, what
counts after it counted before. -/
lemma counts_of_reevaluateDevices {fault : Uuid → Option Fault}
    (hn : (profs.map Profile.id).Nodup) (hpr : pr ∈ profs) :
    ∀ {ds : List Uuid} {t : Tables}, ds.Nodup →
      (reevaluateDevices profs reqs now fault ds t).2 = false →
      (∀ deviceId ∈ ds, CountedAt t time profs deviceId (fault deviceId)) →
      Counts (reevaluateDevices profs reqs now fault ds t).1 time d pr →
      Counts t time d pr
  | [], _, _, _, _, hc => hc
  | first :: rest, t, hd, hch, hb, hc => by
    obtain ⟨hf, hr⟩ := nodup_cons.1 hd
    obtain ⟨hone, ho⟩ := Bool.or_eq_false_iff.1 hch
    refine counts_of_evaluateDevice hn hone (hb first mem_cons_self) hpr
      (counts_of_reevaluateDevices hn hpr hr ho (fun deviceId hm p hp hsat => ?_)
        hc)
    -- the first evaluation touches no row of the devices after it
    have hs : latestEvaluation
        (evaluateDevice t profs reqs now first (fault first)).1 deviceId p.id =
        latestEvaluation t deviceId p.id := latestEvaluation_evaluateDevice fun h => hf (h ▸ hm)
    rw [satisfied_congr hs] at hsat
    exact (counts_congr hs).2 (hb deviceId (mem_cons_of_mem first hm) p hp hsat)

end Device

/-! ### The other writers -/

lemma counts_insertReport {t time d profile} :
    Counts (insertReport t rep) time d profile ↔ Counts t time d profile := by
  refine counts_congr ?_
  unfold insertReport
  split <;> rfl

lemma counts_of_deleteExpiredReports {t cutoff time d profile}
    (h : Counts (deleteExpiredReports t cutoff) time d profile) : Counts t time d profile := by
  obtain ⟨row, hr, hs, hrev, received, hrec, hlt⟩ := h
  simp only [latestEvaluation, deleteExpiredReports, List.find?_map, Option.map_eq_some_iff] at hr
  obtain ⟨old, hold, rfl⟩ := hr
  exact ⟨old, hold, hs, hrev, received, (Option.filter_eq_some_iff.1 hrec).1, hlt⟩

end Zecurity.PostureEvaluation
