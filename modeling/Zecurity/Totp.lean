import Mathlib.Data.Int.Notation
import Zecurity.Runs

/-!
The second factor of an operator: `TOTPHandlers` (`totp_handlers.go`), `store_totp.go` and
`matchTOTP` (`totp.go`), for one row of `provider_users` and any requests at once.

`Verify` and `ConfirmEnroll` read the row and compare the code, and commit with a later statement:
two steps. All that `Enroll` does to the row is one statement, which checks again what was read
before. A request that is refused takes no step. `totpCodeAt` is a parameter.
-/

namespace Zecurity.Totp

open Runs List Option

abbrev Secret := List UInt8

def totpPeriodSeconds : ℤ := 30
def totpDigits : ℕ := 6
def totpSkewSteps : ℕ := 1
def totpSecretBytes : ℕ := 20

def window (now : ℤ) : List ℤ :=
  (range (2 * totpSkewSteps + 1)).map fun d : ℕ =>
    now.tdiv totpPeriodSeconds - totpSkewSteps + d

variable (totpCodeAt : Secret → ℤ → String)

def matchTOTP (secret : Secret) (code : String) (now : ℤ) (lastStep : Option ℤ) : Option ℤ :=
  if secret = [] ∨ code.length ≠ totpDigits ∨ code.toList.all Char.isDigit = false then none
  else (window now).find? fun step => lastStep.all (· < step) && totpCodeAt secret step == code

/-- The columns `totp_secret_ciphertext` (opened), `totp_enabled_at` and `totp_last_step`. -/
structure Row where
  secret : Option Secret := none
  enabled : Bool := false
  lastStep : Option ℤ := none
  deriving DecidableEq

namespace Row

variable (row : Row)

def setPendingTOTP (secret : Secret) : Option Row :=
  if row.enabled then none else some { secret := some secret }

def confirmTOTP (step : ℤ) : Option Row :=
  if row.enabled = false ∧ row.secret.isSome then
    some { row with enabled := true, lastStep := some step }
  else none

def acceptTOTPStep (step : ℤ) : Option Row :=
  if row.enabled = true ∧ row.lastStep.all (· < step) then some { row with lastStep := some step }
  else none

def resetOperatorTOTP : Option Row :=
  if row.enabled = true ∨ row.secret.isSome then some {} else none

end Row

/-- A request whose code matched a step of the secret it read. -/
structure Request where
  secret : Secret
  code : String
  now : ℤ
  step : ℤ
  /-- how many secrets had been stored when it read the row -/
  stored : ℕ
  deriving DecidableEq

structure State where
  row : Row := {}
  confirms : List Request := []
  verifies : List Request := []
  stored : ℕ := 0
  issued : List Secret := []
  confirmed : Option Request := none
  /-- the requests that spent their code since, and that one, the latest first -/
  accepted : List Request := []

inductive Action
  | enroll (secret : Secret)
  | confirmEnroll (code : String) (now : ℤ)
  | confirmTOTP (q : Request)
  | verify (code : String) (now : ℤ)
  | acceptTOTPStep (q : Request)
  | resetOperatorTOTP
  | recoverAdmin

/-- The comparison of a code with the secret of the row. -/
def State.matched (s : State) (code : String) (now : ℤ) (lastStep : Option ℤ) : Option Request :=
  s.row.secret.bind fun secret => (matchTOTP totpCodeAt secret code now lastStep).map fun step =>
    ⟨secret, code, now, step, s.stored⟩

def State.reset (s : State) (row : Row) : State :=
  { s with row, issued := [], confirmed := none, accepted := [] }

def step (s : State) : Action → Option State
  | .enroll secret =>
    if secret.length = totpSecretBytes then
      (s.row.setPendingTOTP secret).map fun row =>
        { s with row, stored := s.stored + 1, issued := secret :: s.issued }
    else none
  | .confirmEnroll code now =>
    if s.row.enabled = false then
      (s.matched totpCodeAt code now none).map fun q => { s with confirms := q :: s.confirms }
    else none
  | .confirmTOTP q =>
    if q ∈ s.confirms then
      let s := { s with confirms := s.confirms.erase q }
      some <| (s.row.confirmTOTP q.step).elim s fun row =>
        { s with row, confirmed := some q, accepted := [q] }
    else none
  | .verify code now =>
    if s.row.enabled = true then
      (s.matched totpCodeAt code now s.row.lastStep).map fun q =>
        { s with verifies := q :: s.verifies }
    else none
  | .acceptTOTPStep q =>
    if q ∈ s.verifies then
      let s := { s with verifies := s.verifies.erase q }
      some <| (s.row.acceptTOTPStep q.step).elim s fun row =>
        { s with row, accepted := q :: s.accepted }
    else none
  | .resetOperatorTOTP => s.row.resetOperatorTOTP.map s.reset
  | .recoverAdmin => some (s.reset {})

/-! ### What holds in every state -/

/-- The code of the request is one of the secret, for a step around the time of the request. -/
def Matches (secret : Secret) (q : Request) : Prop :=
  ∃ step ∈ window q.now, totpCodeAt secret step = q.code

/-- What is enabled was stored by an `Enroll` after the last reset, and the code that enabled
it is one of it. -/
def Proved (s : State) : Prop :=
  s.row.enabled = true → ∃ q k, s.confirmed = some q ∧ s.row.secret = some k ∧ k ∈ s.issued ∧
    Matches totpCodeAt k q

/-- The step of the request is the one of its code. -/
def Request.Ok (q : Request) : Prop :=
  q.step ∈ window q.now ∧ totpCodeAt q.secret q.step = q.code

structure Inv (s : State) : Prop where
  proved : s.row.enabled = true → ∃ q k, s.confirmed = some q ∧ s.row.secret = some k ∧
    k ∈ s.issued ∧ (q.stored = s.stored → Matches totpCodeAt k q)
  issued : ∀ k, s.row.secret = some k → k ∈ s.issued
  confirms : ∀ q ∈ s.confirms, q.Ok totpCodeAt ∧ q.stored ≤ s.stored
  unreplaced : ∀ q ∈ s.confirms, q.stored = s.stored → ∀ k, s.row.secret = some k → k = q.secret
  verifies : ∀ q ∈ s.verifies, q.Ok totpCodeAt
  accepted : ∀ q ∈ s.accepted, q.Ok totpCodeAt
  increasing : s.accepted.Pairwise fun later earlier => earlier.step < later.step
  last : s.row.enabled = true →
    ∃ last, s.row.lastStep = some last ∧ ∀ q ∈ s.accepted, q.step ≤ last

variable {totpCodeAt} {s s' : State} {a : Action} {q : Request}

lemma matched_eq_some {code now lastStep} (h : s.matched totpCodeAt code now lastStep = some q) :
    s.row.secret = some q.secret ∧ q.stored = s.stored ∧ q.Ok totpCodeAt := by
  obtain ⟨secret, hs, h⟩ := bind_eq_some_iff.1 h
  obtain ⟨step, hst, rfl⟩ := map_eq_some_iff.1 h
  obtain ⟨-, hst⟩ := ite_none_left_eq_some.1 hst
  have hc := find?_some hst
  simp only [Bool.and_eq_true, beq_iff_eq] at hc
  exact ⟨hs, rfl, mem_of_find?_eq_some hst, hc.2⟩

lemma inv_reset (hc : ∀ q ∈ s.confirms, q.Ok totpCodeAt ∧ q.stored ≤ s.stored)
    (hv : ∀ q ∈ s.verifies, q.Ok totpCodeAt) : Inv totpCodeAt (s.reset {}) where
  proved he := by cases he
  issued k hk := by cases hk
  confirms := hc
  unreplaced q hq hs k hk := by cases hk
  verifies := hv
  accepted := forall_mem_nil _
  increasing := .nil
  last he := by cases he

lemma inv_step (h : Inv totpCodeAt s) (hs : step totpCodeAt s a = some s') : Inv totpCodeAt s' := by
  cases a with
  | enroll secret =>
    obtain ⟨-, row, hrow, rfl⟩ := ite_map_eq_some.1 hs
    obtain ⟨-, ⟨⟩⟩ := ite_none_left_eq_some.1 hrow
    refine { h with
      issued := ?_, confirms := fun q hq => ?_, unreplaced := fun q hq hst => ?_
      last := by rintro ⟨⟩
      proved := by rintro ⟨⟩ }
    · rintro k ⟨⟩
      exact mem_cons_self
    · exact ⟨(h.confirms q hq).1, Nat.le_succ_of_le (h.confirms q hq).2⟩
    · exact absurd hst (Nat.ne_of_lt (Nat.lt_succ_of_le (h.confirms q hq).2))
  | confirmEnroll code now =>
    obtain ⟨-, q, hq, rfl⟩ := ite_map_eq_some.1 hs
    obtain ⟨hsc, hst, hok⟩ := matched_eq_some hq
    refine { h with confirms := ?_, unreplaced := ?_ }
    · exact forall_mem_cons.2 ⟨⟨hok, Nat.le_of_eq hst⟩, h.confirms⟩
    · refine forall_mem_cons.2 ⟨fun _ k hk => ?_, h.unreplaced⟩
      exact some.inj (hk.symm.trans hsc)
  | confirmTOTP q =>
    obtain ⟨hq, rfl⟩ := ite_some_none_eq_some.1 hs
    have he : Inv totpCodeAt { s with confirms := s.confirms.erase q } := { h with
        confirms := fun r hr => h.confirms r (mem_of_mem_erase hr)
        unreplaced := fun r hr => h.unreplaced r (mem_of_mem_erase hr) }
    dsimp only [Row.confirmTOTP]
    split
    · next hp =>
      obtain ⟨k, hk⟩ := isSome_iff_exists.1 hp.2
      obtain ⟨hstp, hc⟩ := (h.confirms q hq).1
      exact { he with
        proved := fun _ => ⟨q, k, rfl, hk, h.issued k hk, fun hst =>
          ⟨q.step, hstp, h.unreplaced q hq hst k hk ▸ hc⟩⟩
        accepted := forall_mem_singleton.2 (h.confirms q hq).1
        increasing := pairwise_singleton ..
        last := fun _ => ⟨q.step, rfl, forall_mem_singleton.2 (Int.le_refl _)⟩ }
    · exact he
  | verify code now =>
    obtain ⟨-, q, hq, rfl⟩ := ite_map_eq_some.1 hs
    exact { h with verifies := forall_mem_cons.2 ⟨(matched_eq_some hq).2.2, h.verifies⟩ }
  | acceptTOTPStep q =>
    obtain ⟨hq, rfl⟩ := ite_some_none_eq_some.1 hs
    have he : Inv totpCodeAt { s with verifies := s.verifies.erase q } :=
      { h with verifies := fun r hr => h.verifies r (mem_of_mem_erase hr) }
    dsimp only [Row.acceptTOTPStep]
    split
    · next hl =>
      obtain ⟨last, heq, hle⟩ := h.last hl.1
      have hlt : last < q.step := by simpa [heq] using hl.2
      have hn : ∀ r ∈ s.accepted, r.step < q.step := fun r hr =>
        Int.lt_of_le_of_lt (hle r hr) hlt
      exact { he with
        accepted := forall_mem_cons.2 ⟨h.verifies q hq, h.accepted⟩
        increasing := pairwise_cons.2 ⟨hn, h.increasing⟩
        last := fun _ => ⟨q.step, rfl, forall_mem_cons.2
          ⟨Int.le_refl _, fun r hr => Int.le_of_lt (hn r hr)⟩⟩ }
    · exact he
  | resetOperatorTOTP =>
    obtain ⟨row, hrow, rfl⟩ := map_eq_some_iff.1 hs
    obtain ⟨-, rfl⟩ := ite_some_none_eq_some.1 hrow
    exact inv_reset h.confirms h.verifies
  | recoverAdmin =>
    cases hs
    exact inv_reset h.confirms h.verifies

lemma inv_start : Inv totpCodeAt {} := @inv_reset _ {} (forall_mem_nil _) (forall_mem_nil _)

/-- **A code is spent once**: while one secret is enabled, the steps that were accepted,
the one that confirmed it included, increase, and each is a step around the time of its request. -/
theorem accepted_increasing (totpCodeAt : Secret → ℤ → String) (acts : List Action) :
    Always (step totpCodeAt) (fun _ _ s' =>
      s'.accepted.Pairwise (fun later earlier => earlier.step < later.step) ∧
      ∀ q ∈ s'.accepted, totpCodeAt q.secret q.step = q.code ∧
        (q.step - q.now.tdiv totpPeriodSeconds).natAbs ≤ totpSkewSteps) {} acts := by
  refine always_of_inv (fun s a s' => inv_step) (fun s a s' h hs => ?_) inv_start
  have h' := inv_step h hs
  refine ⟨h'.increasing, fun q hq => ⟨(h'.accepted q hq).2, ?_⟩⟩
  obtain ⟨d, hd, hst⟩ := List.mem_map.1 (h'.accepted q hq).1
  rw [mem_range] at hd
  rw [← hst]
  omega

/-- Where no `Enroll` has stored a secret since the confirming request read its own, what is enabled
is proved. -/
theorem enabled_proved (totpCodeAt : Secret → ℤ → String) (acts : List Action) :
    Always (step totpCodeAt) (fun _ _ s' =>
      (∀ q, s'.confirmed = some q → q.stored = s'.stored) → Proved totpCodeAt s') {} acts := by
  refine always_of_inv (fun s a s' => inv_step) (fun s a s' h hs hst he => ?_) inv_start
  obtain ⟨q, k, hq, hk, hi, hm⟩ := (inv_step h hs).proved he
  exact ⟨q, k, hq, hk, hi, hm (hst q hq)⟩

/-- A secret with the same byte throughout. -/
def secretOf (b : UInt8) : Secret := replicate totpSecretBytes b

/-- Codes that tell two secrets apart. -/
def codeOf (secret : Secret) (_ : ℤ) : String :=
  if secret = secretOf 1 then "111111" else "222222"

/-- An enrollment that is confirmed. -/
theorem enabled_proved_confirmed :
    ∃ s, exec (step codeOf) {} [.enroll (secretOf 1), .confirmEnroll "111111" 0,
        .confirmTOTP ⟨secretOf 1, "111111", 0, -1, 1⟩] = some s ∧
      s.row.enabled = true ∧ Proved codeOf s := by
  have h := enabled_proved codeOf _ [.enroll (secretOf 1), .confirmEnroll "111111" 0]
    (.confirmTOTP ⟨secretOf 1, "111111", 0, -1, 1⟩) [] _ _ rfl rfl rfl
  exact ⟨_, rfl, rfl, h (by rintro q ⟨⟩; rfl)⟩

/-- The second `Enroll` replaces the secret whose code has been compared; the statement enables
the new one. -/
theorem replaced_enabled :
    ∃ s, exec (step codeOf) {} [.enroll (secretOf 1), .confirmEnroll "111111" 0,
        .enroll (secretOf 2), .confirmTOTP ⟨secretOf 1, "111111", 0, -1, 1⟩] = some s ∧
      s.row = ⟨some (secretOf 2), true, some (-1)⟩ ∧
      ∀ step ∈ window 0, codeOf (secretOf 2) step ≠ "111111" := by
  decide +kernel

end Zecurity.Totp
