import Zecurity.Runs
import Zecurity.ShieldRows

/-!
The enrollment of a shield (`Enroll` in `controller/internal/shield/enrollment.go`) among the
calls that write the rows of shields.

It is one transaction that holds the lock of the row from the claim to its end, and reads the
connector without a lock. Which calls there are besides is left to the models built on this one.
-/

namespace Zecurity.ShieldEnrollment

open AList FiniteMap Option Runs ShieldRows
open ResourceStore (TenantId ShieldId)

abbrev CallId := ℕ

inductive Phase
  /-- the token and the request are good; before the transaction -/
  | verified
  | claimed
  | workspaceActive
  | connectorActive
  deriving DecidableEq

structure Enrollment where
  claims : EnrollmentClaims
  csr : Csr
  hostname : String
  version : String
  phase : Phase

/-- The row that an enrollment has locked. -/
def Enrollment.holds (e : Enrollment) : Option ShieldId :=
  if e.phase = .verified then none else some e.claims.shieldId

/-- The calls of a model: which of them are enrollments, and the row that each has locked. -/
class Locking (κ : Type) where
  enroll : Enrollment → κ
  enrollment : κ → Option Enrollment
  holds : κ → Option ShieldId
  enrollment_eq_some : ∀ {c e}, enrollment c = some e ↔ c = enroll e
  holds_eq : ∀ e, holds (enroll e) = e.holds

open Locking

variable {κ : Type} [Locking κ]

lemma Locking.holds_enroll {e} (h : e.phase ≠ .verified) :
    holds (enroll e : κ) = some e.claims.shieldId := (holds_eq e).trans (if_neg h)

/-- No transaction holds the row. -/
def Free (calls : Map CallId κ) (sh : ShieldId) : Prop := All calls fun c => holds c ≠ some sh

instance (calls : Map CallId κ) (sh : ShieldId) : Decidable (Free calls sh) :=
  inferInstanceAs (Decidable (All _ _))

structure Tables (κ : Type) where
  connectors : Map ConnectorId Connector
  workspaces : Map TenantId Bool
  shields : Map ShieldId ShieldRow
  calls : Map CallId κ

namespace Tables

variable (t : Tables κ) (id : CallId)

def enrollmentIn (p : Phase) : Option Enrollment :=
  (t.calls.lookup id).bind fun c =>
    (enrollment c).bind fun e => if e.phase = p then some e else none

/-- The enrollment goes on to the phase if the check has passed, and ends if not. -/
def advance (e : Enrollment) (ok : Bool) (p : Phase) : Tables κ :=
  { t with
    calls := if ok then t.calls.insert id (enroll { e with phase := p }) else t.calls.erase id }

def claim : Option (Tables κ) :=
  (t.enrollmentIn id .verified).bind fun e =>
    if Free t.calls e.claims.shieldId then
      some (t.advance id e ((t.shields.lookup e.claims.shieldId).any fun row =>
        claimable e.claims row && claimAgrees e.claims row) .claimed)
    else none

def loadWorkspace : Option (Tables κ) :=
  (t.enrollmentIn id .claimed).map fun e =>
    t.advance id e (t.workspaces.lookup e.claims.workspaceId == some true) .workspaceActive

def loadConnector : Option (Tables κ) :=
  (t.enrollmentIn id .workspaceActive).map fun e =>
    t.advance id e
      ((t.connectors.lookup e.claims.connectorId).any (enrollConnectorActive e.claims))
      .connectorActive

end Tables

variable {t t' : Tables κ} {calls : Map CallId κ} {shields shields' : Map ShieldId ShieldRow}
  {id : CallId} {call : κ} {e : Enrollment} {p : Phase} {sh : ShieldId}

lemma enroll_injective : Function.Injective (enroll : Enrollment → κ) := fun e e' h => by
  have he : enrollment (enroll e : κ) = some e := enrollment_eq_some.2 rfl
  rw [h, enrollment_eq_some.2 rfl] at he
  exact (some.inj he).symm

lemma enrollmentIn_eq_some (h : t.enrollmentIn id p = some e) :
    t.calls.lookup id = some (enroll e) ∧ e.phase = p := by
  obtain ⟨c, hc, h⟩ := bind_eq_some_iff.1 h
  obtain ⟨e', he, hp, ⟨⟩⟩ := bind_ite_eq_some.1 h
  exact ⟨hc.trans (congrArg some (enrollment_eq_some.1 he)), hp⟩

/-- A step of an enrollment before its commit ends the call, or leads it on to the next phase. -/
inductive Advances (t : Tables κ) (id : CallId) : Phase → Tables κ → Prop
  | fail {p : Phase} : Advances t id p { t with calls := t.calls.erase id }
  | claim {e : Enrollment} {row} (hfree : Free t.calls e.claims.shieldId)
    (hrow : t.shields.lookup e.claims.shieldId = some row)
    (hclaimable : claimable e.claims row = true) (hagrees : claimAgrees e.claims row = true) :
    Advances t id .claimed
      { t with calls := t.calls.insert id (enroll { e with phase := .claimed }) }
  | loadWorkspace {e : Enrollment} (he : t.calls.lookup id = some (enroll e))
    (hp : e.phase = .claimed) :
    Advances t id .workspaceActive
      { t with calls := t.calls.insert id (enroll { e with phase := .workspaceActive }) }
  | loadConnector {e : Enrollment} {c} (he : t.calls.lookup id = some (enroll e))
    (hp : e.phase = .workspaceActive) (hc : t.connectors.lookup e.claims.connectorId = some c)
    (hactive : enrollConnectorActive e.claims c = true) :
    Advances t id .connectorActive
      { t with calls := t.calls.insert id (enroll { e with phase := .connectorActive }) }

lemma advances_of_claim (h : t.claim id = some t') : Advances t id .claimed t' := by
  obtain ⟨e, -, hf, ⟨⟩⟩ := bind_ite_eq_some.1 h
  unfold Tables.advance
  split
  next hok =>
    obtain ⟨row, hrow, hc⟩ := (any_eq_true ..).1 hok
    obtain ⟨hc, ha⟩ := Bool.and_eq_true_iff.1 hc
    exact .claim hf hrow hc ha
  next => exact .fail

lemma advances_of_loadWorkspace (h : t.loadWorkspace id = some t') :
    Advances t id .workspaceActive t' := by
  obtain ⟨e, he, rfl⟩ := map_eq_some_iff.1 h
  obtain ⟨hc, hp⟩ := enrollmentIn_eq_some he
  unfold Tables.advance
  split
  · exact .loadWorkspace hc hp
  · exact .fail

lemma advances_of_loadConnector (h : t.loadConnector id = some t') :
    Advances t id .connectorActive t' := by
  obtain ⟨e, he, rfl⟩ := map_eq_some_iff.1 h
  obtain ⟨hcall, hp⟩ := enrollmentIn_eq_some he
  unfold Tables.advance
  split
  next hok =>
    obtain ⟨c, hc, ha⟩ := (any_eq_true ..).1 hok
    exact .loadConnector hcall hp hc ha
  next => exact .fail

/-! ### The locks -/

/-- A row is locked by one call, and the row that an enrollment has claimed is as it was. -/
structure Locks (calls : Map CallId κ) (shields : Map ShieldId ShieldRow) : Prop where
  unique : ∀ i j ci cj sh, calls.lookup i = some ci → calls.lookup j = some cj →
    holds ci = some sh → holds cj = some sh → i = j
  claimed : ∀ i e, calls.lookup i = some (enroll e) → e.phase ≠ .verified →
    ∃ row, shields.lookup e.claims.shieldId = some row ∧ claimable e.claims row = true ∧
      claimAgrees e.claims row = true

lemma Locks.empty : Locks (∅ : Map CallId κ) shields where
  unique := by rintro _ _ _ _ _ ⟨⟩
  claimed := by rintro _ _ ⟨⟩

section Locks

variable (h : Locks calls shields)
include h

lemma Locks.endCall : Locks (calls.erase id) shields where
  unique := fun i j ci cj sh hi hj =>
    h.unique i j ci cj sh (lookup_erase_eq_some.1 hi).1 (lookup_erase_eq_some.1 hj).1
  claimed := fun i e hi => h.claimed i e (lookup_erase_eq_some.1 hi).1

/-- A call that takes no lock but one that is free, or keeps its own. -/
lemma Locks.setCall
    (hholds : ∀ sh, holds call = some sh →
      Free calls sh ∨ ∃ old, calls.lookup id = some old ∧ holds old = some sh)
    (hc : ∀ e, call = enroll e → e.phase ≠ .verified →
      ∃ row, shields.lookup e.claims.shieldId = some row ∧ claimable e.claims row = true ∧
        claimAgrees e.claims row = true) :
    Locks (calls.insert id call) shields := by
  refine ⟨exclusive_insert h.unique hholds, fun i e hi hp => ?_⟩
  rcases lookup_insert_eq_some.1 hi with ⟨rfl, heq⟩ | ⟨-, hi'⟩
  · exact hc e heq.symm hp
  · exact h.claimed i e hi' hp

lemma Locks.write
    (hs : ∀ sh row, ¬ Free calls sh → shields.lookup sh = some row → row.status = .pending →
      shields'.lookup sh = some row) : Locks calls shields' := by
  refine ⟨h.unique, fun i e hi hp => ?_⟩
  obtain ⟨row, hr, hc, ha⟩ := h.claimed i e hi hp
  refine ⟨row, hs _ row (fun hf => hf i _ hi (holds_enroll hp)) hr ?_, hc, ha⟩
  exact beq_iff_eq.1 (Bool.and_eq_true_iff.1 hc).1

lemma Locks.insert {row} (hf : ∀ old, shields.lookup sh = some old → Free calls sh) :
    Locks calls (shields.insert sh row) := by
  refine h.write fun k old hk hold _ => lookup_insert_eq_some.2 (.inr ⟨?_, hold⟩)
  rintro rfl
  exact hk (hf old hold)

lemma Locks.free_endCall (hcall : calls.lookup id = some call) (hholds : holds call = some sh) :
    Free (calls.erase id) sh := by
  intro j cj hj hcj
  obtain ⟨hj, hne⟩ := lookup_erase_eq_some.1 hj
  exact hne (h.unique j id cj call sh hj hcall hcj hholds)

lemma Locks.free_setCall {call' : κ} (hcall : calls.lookup id = some call)
    (hholds : holds call = some sh) (hc' : holds call' = none) :
    Free (calls.insert id call') sh := by
  intro j cj hj hcj
  rcases lookup_insert_eq_some.1 hj with ⟨rfl, rfl⟩ | ⟨hne, hj⟩
  · rw [hc'] at hcj
    cases hcj
  · exact hne (h.unique j id cj call sh hj hcall hcj hholds)

end Locks

lemma Locks.advance (h : Locks calls shields) (he : calls.lookup id = some (enroll e))
    (hp : e.phase ≠ .verified) (hp' : p ≠ .verified) :
    Locks (calls.insert id (enroll { e with phase := p })) shields := by
  refine h.setCall (fun sh hsh => .inr ⟨_, he, ?_⟩) fun e' heq _ => ?_
  · rw [holds_enroll (e := { e with phase := p }) hp'] at hsh
    rw [holds_enroll hp]
    exact hsh
  · cases enroll_injective heq
    exact h.claimed id e he hp

lemma Advances.locks (ha : Advances t id p t') (h : Locks t.calls t.shields) :
    Locks t'.calls t'.shields := by
  cases ha with
  | fail => exact h.endCall
  | @claim e row hf hrow hc ha =>
    refine h.setCall (fun sh hsh => .inl ?_) fun e' heq _ => ?_
    · rw [holds_enroll (e := { e with phase := .claimed }) (by simp)] at hsh
      exact some.inj hsh ▸ hf
    · cases enroll_injective heq
      exact ⟨row, hrow, hc, ha⟩
  | loadWorkspace he hp | loadConnector he hp => exact h.advance he (by simp [hp]) (by simp)

end Zecurity.ShieldEnrollment
