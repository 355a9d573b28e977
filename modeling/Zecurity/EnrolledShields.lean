import Zecurity.ConnectorRemoval

/-!
An enrolled shield has a row or a tombstone: the deletion of a connector takes along the shields
attached to it, and refuses while one of them is enrolled.

The refusal is decided on the snapshot of the statement's start. An enrollment or a status report
that has found the connector active commits without another look at it.
-/

namespace Zecurity.ConnectorRemoval

open FiniteMap Runs ShieldEnrollment ShieldRows
open ResourceStore (ShieldId)

/-- Every shield that has a certificate has a row or a tombstone. -/
def Traced (s : State) : Prop :=
  ∀ sh ∈ s.certified, (s.shields.lookup sh).isSome ∨ sh ∈ s.tombstones

instance (s : State) : Decidable (Traced s) := inferInstanceAs (Decidable (∀ _ ∈ _, _))

/-- The connector that a call has found active. -/
def Call.reliesOn : Call → Option ConnectorId
  | .enroll e => if e.phase = .connectorActive then some e.claims.connectorId else none
  | .health r => some r.connectorId
  | _ => none

def Call.deletes : Call → Option ConnectorId
  | .deleteConnector _ connectorId => some connectorId
  | _ => none

def Action.deletes : Action → Option ConnectorId
  | .deleteConnector _ _ connectorId => some connectorId
  | _ => none

/-- The connector that a step looks at. -/
def Action.reliesOn (s : State) : Action → Option ConnectorId
  | .loadConnector id => (s.enrollmentIn id .workspaceActive).map (·.claims.connectorId)
  | .readHealth _ connectorId _ => some connectorId
  | _ => none

/-- The row and the status of a report that is written. -/
def Action.reports (s : State) : Action → Option (ShieldRow × String)
  | .writeHealth id =>
    (s.report id).bind fun r =>
      (s.shields.lookup r.update.shieldId).map fun row => (row, r.update.status)
  | _ => none

/-- A deletion of a connector does not overlap with an enrollment or a status report that has
found the connector active, and a report says of an enrolled shield that it is active or
disconnected. -/
def Undisturbed (s : State) (a : Action) : Prop :=
  (∀ c ∈ a.deletes, All s.calls fun call => call.reliesOn ≠ some c) ∧
    (∀ c ∈ a.reliesOn s, All s.calls fun call => call.deletes ≠ some c) ∧
      ∀ p ∈ a.reports s, p.1.live = true → p.2 = "active" ∨ p.2 = "disconnected"

instance (s : State) (a : Action) : Decidable (Undisturbed s a) :=
  inferInstanceAs (Decidable (_ ∧ _ ∧ _))

/-! ### The invariant -/

structure TracedInv (s : State) : Prop where
  locks : Locks s.calls s.shields
  certified : ∀ sh ∈ s.certified,
    sh ∈ s.tombstones ∨ ∃ row, s.shields.lookup sh = some row ∧ row.live = true
  /-- a deletion finds no enrolled shield, and nobody who could attach one -/
  attached : ∀ i call c, s.calls.lookup i = some call → call.deletes = some c →
    All s.shields fun row => row.connectorId = c → row.live = false
  alone : ∀ i j call call' c, s.calls.lookup i = some call → s.calls.lookup j = some call' →
    call.deletes = some c → call'.reliesOn ≠ some c

lemma tracedInv_start : TracedInv start where
  locks := .empty
  certified := fun sh hsh => absurd hsh (Finset.notMem_empty sh)
  attached := by rintro _ _ _ ⟨⟩
  alone := by rintro _ _ _ _ _ ⟨⟩

lemma TracedInv.traced {s} (h : TracedInv s) : Traced s := by
  intro sh hsh
  rcases h.certified sh hsh with ht | ⟨row, hr, -⟩
  · exact .inr ht
  · rw [hr]
    exact .inl rfl

section Fields

variable {s : State} {sh : ShieldId} {row row' : ShieldRow} {id : CallId} {call : Call}

lemma TracedInv.setRow (h : TracedInv s) (hl : Locks s.calls (s.shields.insert sh row'))
    (hlv : ∀ row, s.shields.lookup sh = some row → row.live = true → row'.live = true)
    (ha : ∀ i call c, s.calls.lookup i = some call → call.deletes = some c →
      row'.connectorId = c → row'.live = false) : TracedInv (s.setRow sh row') where
  locks := hl
  certified := fun k hk => by
    refine (h.certified k hk).imp_right fun ⟨row, hr, hrl⟩ => ?_
    by_cases hks : k = sh
    · subst hks
      exact ⟨row', AList.lookup_insert _, hlv row hr hrl⟩
    · exact ⟨row, (AList.lookup_insert_ne hks).trans hr, hrl⟩
  attached := fun i call c hi hc =>
    All.insert (h.attached i call c hi hc) (ha i call c hi hc)
  alone := h.alone

lemma TracedInv.endCall (h : TracedInv s) (id : CallId) : TracedInv (s.endCall id) where
  locks := h.locks.endCall
  certified := h.certified
  attached := fun i call c hi => h.attached i call c (lookup_erase_eq_some.1 hi).1
  alone := fun i j call call' c hi hj =>
    h.alone i j call call' c (lookup_erase_eq_some.1 hi).1 (lookup_erase_eq_some.1 hj).1

lemma TracedInv.setCall (h : TracedInv s) (hl : Locks (s.calls.insert id call) s.shields)
    (hd : ∀ c, call.deletes = some c →
      (All s.shields fun row => row.connectorId = c → row.live = false) ∧
        call.reliesOn ≠ some c ∧ All s.calls fun call' => call'.reliesOn ≠ some c)
    (hr : ∀ c, call.reliesOn = some c → All s.calls fun call' => call'.deletes ≠ some c) :
    TracedInv (s.setCall id call) where
  locks := hl
  certified := h.certified
  attached := by
    intro i ci c hi hci
    rcases lookup_insert_eq_some.1 hi with ⟨rfl, rfl⟩ | ⟨-, hi'⟩
    · exact (hd c hci).1
    · exact h.attached i ci c hi' hci
  alone := by
    intro i j ci cj c hi hj hci hcj
    rcases lookup_insert_eq_some.1 hi with ⟨rfl, rfl⟩ | ⟨-, hi'⟩ <;>
      rcases lookup_insert_eq_some.1 hj with ⟨rfl, rfl⟩ | ⟨-, hj'⟩
    · exact (hd c hci).2.1 hcj
    · exact (hd c hci).2.2 j cj hj' hcj
    · exact hr c hcj i ci hi' hci
    · exact h.alone i j ci cj c hi' hj' hci hcj

end Fields

/-! ### The steps -/

lemma Enters.tracedInv {s a id call} (hc : Enters s id a call) (h : TracedInv s)
    (hok : Undisturbed s a) : TracedInv (s.setCall id call) := by
  have hl := hc.locks h.locks
  cases hc with
  | loadConnector he hp hc ha =>
    refine h.setCall hl (by rintro _ ⟨⟩) fun c hr => hok.2.1 c ?_
    simpa [Action.reliesOn, Tables.enrollmentIn, Locking.enrollment, he, hp, Call.reliesOn] using hr
  | readHealth hc hm => exact h.setCall hl (by rintro _ ⟨⟩) fun c hr => hok.2.1 c hr
  | deleteConnector hn =>
    refine h.setCall hl (fun c hd => ?_) (by rintro _ ⟨⟩)
    cases hd
    exact ⟨hn, by simp [Call.reliesOn], hok.1 _ rfl⟩
  | _ => exact h.setCall hl (by rintro _ ⟨⟩) (by rintro _ ⟨⟩)

lemma TracedInv.commitRevoke {s : State} {sh : ShieldId} {row : ShieldRow} (h : TracedInv s)
    {calls' : Map CallId Call} (hl : Locks calls' (s.commitRevoke sh row).shields)
    (hcl : ∀ i call, calls'.lookup i = some call → s.calls.lookup i = some call ∨
      call.deletes = none ∧ call.reliesOn = none) :
    TracedInv { s.commitRevoke sh row with calls := calls' } where
  locks := hl
  certified := fun k hk => by
    rcases h.certified k hk with ht | ⟨r, hr, hlv⟩
    · exact .inl (Finset.mem_insert_of_mem ht)
    · by_cases hks : k = sh
      · exact .inl (hks ▸ Finset.mem_insert_self ..)
      · exact .inr ⟨r, (AList.lookup_insert_ne hks).trans hr, hlv⟩
  attached := fun i call c hi hc => by
    rcases hcl i call hi with hold | ⟨hn, -⟩
    · exact All.insert (h.attached i call c hold hc) fun _ => rfl
    · rw [hn] at hc
      cases hc
  alone := fun i j ci cj c hi hj hci hcj => by
    rcases hcl i ci hi with hi' | ⟨hn, -⟩
    · rcases hcl j cj hj with hj' | ⟨-, hn⟩
      · exact h.alone i j ci cj c hi' hj' hci hcj
      · rw [hn] at hcj
        cases hcj
    · rw [hn] at hci
      cases hci

lemma Step.tracedInv {s s' a} (hs : Step s a s') (h : TracedInv s) (hok : Undisturbed s a) :
    TracedInv s' := by
  have hl := hs.locks h.locks
  cases hs with
  | idle => exact h
  | addConnector | connector | workspace => exact { h with }
  | pend hpn hold hin =>
    have hn : ∀ row : ShieldRow, row.status = .pending → row.live = false :=
      fun row hp => by simp [ShieldRow.live, hp]
    refine h.setRow hl (fun row hrow hlv => ?_) fun _ _ _ _ _ _ => hn _ hpn
    rw [hn row (hold row hrow).1] at hlv
    cases hlv
  | watch hrow hf =>
    refine h.setRow hl (fun row' hr' hlv => ?_) fun i call c hi hc => ?_
    · cases hrow.symm.trans hr'
      rwa [markDisconnected_live]
    · rw [markDisconnected_connectorId, markDisconnected_live]
      exact h.attached i call c hi hc _ _ hrow
  | deleteShield hrow hlv hf =>
    refine { h with locks := hl, certified := fun k hk => ?_, attached := ?_ }
    · rcases h.certified k hk with ht | ⟨r, hr, hrl⟩
      · exact .inl ht
      · refine .inr ⟨r, lookup_erase_eq_some.2 ⟨hr, ?_⟩, hrl⟩
        rintro rfl
        cases hrow.symm.trans hr
        rw [hlv] at hrl
        cases hrl
    · exact fun i call c hi hc k r hr => h.attached i call c hi hc k r (lookup_erase_eq_some.1 hr).1
  | setCall hc => exact hc.tracedInv h hok
  | endCall => exact h.endCall _
  | @activate id sn now e row he hp hrow =>
    -- the row is attached to the connector of the claims, which the enrollment relies on
    obtain ⟨r, hr, -, ha⟩ := h.locks.claimed id e he (by simp [hp])
    cases hrow.symm.trans hr
    have hcn : row.connectorId = e.claims.connectorId := by
      simp only [claimAgrees, Bool.and_eq_true, beq_iff_eq] at ha
      exact ha.1.1.2
    have hset : TracedInv ((s.endCall id).setRow e.claims.shieldId
        (row.enrolled e.claims e.csr.key sn e.hostname e.version now)) := by
      refine (h.endCall id).setRow hl (fun _ _ _ => rfl) fun i call c hi hc heq => ?_
      refine absurd ?_ (h.alone i id call _ c (lookup_erase_eq_some.1 hi).1 he hc)
      rw [Call.reliesOn, if_pos hp, ← hcn]
      exact congrArg some heq
    refine { hset with certified := fun k hk => ?_ }
    rcases Finset.mem_insert.1 hk with rfl | hk
    · exact .inr ⟨_, AList.lookup_insert _, rfl⟩
    · exact hset.certified k hk
  | @writeHealth id r row row' hr hrow hr' hf =>
    obtain ⟨st, hst, -, -, rfl⟩ := Report.row_eq_some hr'
    refine TracedInv.endCall (h.setRow (h.locks.insert fun _ _ => hf)
      (fun row0 hr0 hlv => ?_) fun i call c hi hc heq => ?_) id
    · cases hrow.symm.trans hr0
      have hcl : r.update.status = "active" ∨ r.update.status = "disconnected" :=
        hok.2.2 (row, r.update.status) (by simp [Action.reports, State.report, hr, hrow]) hlv
      rcases hcl with hcl | hcl <;>
      · rw [hcl] at hst
        cases hst
        rfl
    · exact absurd (congrArg some heq) (h.alone i id call _ c hi hr hc)
  | commitShield hsh hrow =>
    exact h.commitRevoke hl fun i call hi => .inl (lookup_erase_eq_some.1 hi).1
  | commitNext hr hp hsh hrow =>
    refine h.commitRevoke hl fun i call hi => ?_
    rcases lookup_insert_eq_some.1 hi with ⟨-, rfl⟩ | ⟨-, hi'⟩
    · exact .inr ⟨rfl, rfl⟩
    · exact .inl hi'
  | revokeConnector hr hp hc =>
    have hset := h.setCall hl (by rintro _ ⟨⟩) (by rintro _ ⟨⟩)
    exact { hset with }
  | @returnTrue id r hr hp hnil =>
    have hend := h.endCall id
    exact { hend with }
  | @cascade id tid cid c hd hc hm hf =>
    -- no enrolled row is attached to the connector, so that only others go
    have hend := h.endCall id
    refine { hend with locks := hl, certified := fun k hk => ?_, attached := ?_ }
    · rcases h.certified k hk with ht | ⟨r, hr, hrl⟩
      · exact .inl ht
      · refine .inr ⟨r, lookup_retain_eq_some.2 ⟨hr, bne_iff_ne.2 fun heq => ?_⟩, hrl⟩
        rw [h.attached id _ cid hd rfl k r hr heq] at hrl
        cases hrl
    · exact fun i call c hi hc k r hr =>
        hend.attached i call c hi hc k r (lookup_retain_eq_some.1 hr).1

/-! ### The result -/

/-- In every run in which no deletion of a connector overlaps with an enrollment or a status report
that has found it active, and no report calls an enrolled shield pending or revoked, every shield
that has been given a certificate has a row or a tombstone, at every moment. -/
theorem certified_traced {acts : List Action} (h : Meets step Undisturbed start acts) :
    Always step (fun _ _ s' => Traced s') start acts := by
  have hst : ∀ s a s', TracedInv s → Undisturbed s a → step s a = some s' → TracedInv s' :=
    fun s a s' hi hok hs => (step_cases hs).tracedInv hi hok
  refine always_of_meets hst (fun s a s' hi hok hs => ?_) tracedInv_start h
  exact (hst s a s' hi hok hs).traced

/-- The shield enrolls and is revoked together with its connector, which is then deleted. -/
def orderlyRemoval : List Action :=
  [Action.workspace "t" true] ++ addActive "c" ++ enrollUntilActive 0 "sh" "c" ++
    [Action.activate 0 7 0, .strandedShields 1 "t" "c" true, .revokeConnector 1, .revokeNext 1,
      .commitNext 1, .returnTrue 1, .deleteConnector 2 "t" "c", .cascade 2]

theorem certified_traced_orderlyRemoval :
    Meets step Undisturbed start orderlyRemoval ∧
      Always step (fun _ _ s' => Traced s') start orderlyRemoval ∧
      (exec step start orderlyRemoval).any
        (fun s => decide ("sh" ∈ s.certified) && (s.shields.lookup "sh").isNone) = true := by
  have h : Meets step Undisturbed start orderlyRemoval := by decide +kernel
  exact ⟨h, certified_traced h, by decide +kernel⟩

/-- The connector is revoked and its deletion looks for enrolled shields, all between an
enrollment's look at the connector and its commit. -/
def overtakenEnrollment : List Action :=
  [Action.workspace "t" true] ++ addActive "c" ++ enrollUntilActive 0 "sh" "c" ++
    [Action.strandedShields 1 "t" "c" false, .revokeConnector 1, .returnTrue 1,
      .deleteConnector 2 "t" "c", .activate 0 7 0, .cascade 2]

/-- The certificate has been returned, and neither the row nor a tombstone is left. -/
theorem enrolled_shield_vanishes :
    ∃ s, exec step start overtakenEnrollment = some s ∧ ¬Traced s := by
  decide +kernel

end Zecurity.ConnectorRemoval
