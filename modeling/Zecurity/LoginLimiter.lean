import Zecurity.Runs

/-!
The limit on wrong passwords: `ValkeyLoginLimiter` (`ratelimit.go`) and `Login`
(`auth_handlers.go`), for any attempts at once, seen from one account.

`Blocked`, the verification, `RecordFailure` and `Reset` are one step each. A counter that is not
there is `0`, and one that is there may expire at any time.
-/

namespace Zecurity.LoginLimiter

open Runs List Function Option

def loginFailMaxPerEmail : ℕ := 5
def loginFailMaxPerIP : ℕ := 20

inductive Key
  | email (normalized : String)
  | ip (address : String)
  deriving DecidableEq

structure Attempt where
  email : String
  ip : String
  deriving DecidableEq

def incr (m : Key → ℕ) (k : Key) : Key → ℕ := update m k (m k + 1)

/-- `RecordFailure`; with `false` it fails after the first key. -/
def recordFailure (m : Key → ℕ) (q : Attempt) (ok : Bool) : Key → ℕ :=
  let m := incr m (.email q.email)
  if ok then incr m (.ip q.ip) else m

structure State where
  counters : Key → ℕ := fun _ => 0
  checked : List Attempt := []
  /-- wrong passwords that are not counted yet, or cannot be -/
  failed : List Attempt := []
  passed : List Attempt := []
  /-- wrong passwords of the account since its counter last went -/
  wrong : ℕ := 0
  /-- the most attempts for the account that were between check and count at one time -/
  peak : ℕ := 0

inductive Action
  | login (email ip : String)
  | authenticate (q : Attempt) (ok : Bool)
  | recordFailure (q : Attempt) (ok : Bool)
  | reset (q : Attempt) (ok : Bool)
  | giveUp (q : Attempt)
  | expire (k : Key)

variable (normalizeEmail : String → String) (account : String)

def Attempt.weight (q : Attempt) : ℕ := if q.email = account then 1 else 0

/-- How many of the attempts are for the account. -/
def of (l : List Attempt) : ℕ := l.countP (·.email = account)

def State.delete (s : State) (k : Key) : State :=
  { s with
    counters := update s.counters k 0
    wrong := if k = .email account then 0 else s.wrong }

def step (s : State) : Action → Option State
  | .login email ip =>
    let q : Attempt := ⟨normalizeEmail email, ip⟩
    let checked := q :: s.checked
    if loginFailMaxPerEmail ≤ s.counters (.email q.email) ∨
        loginFailMaxPerIP ≤ s.counters (.ip ip) then none
    else some { s with checked, peak := max s.peak (of account checked + of account s.failed) }
  | .authenticate q ok =>
    if q ∈ s.checked then
      let s := { s with checked := s.checked.erase q }
      some (if ok then { s with passed := q :: s.passed }
        else { s with failed := q :: s.failed, wrong := s.wrong + q.weight account })
    else none
  | .recordFailure q ok =>
    if q ∈ s.failed then
      some { s with
        failed := s.failed.erase q, counters := LoginLimiter.recordFailure s.counters q ok }
    else none
  | .reset q ok =>
    if q ∈ s.passed then
      let s' := if ok then s.delete account (.email q.email) else s
      some { s' with passed := s.passed.erase q }
    else none
  | .giveUp q => if q ∈ s.checked then some { s with checked := s.checked.erase q } else none
  | .expire k => some (s.delete account k)

/-- Only its expiry and a login of its own account lower a counter. -/
def Lowers (s : State) (a : Action) (s' : State) : Prop :=
  ∀ k, s'.counters k < s.counters k → a = .expire k ∨ ∃ q, a = .reset q true ∧ k = .email q.email

structure Inv (s : State) : Prop where
  wrong : s.wrong ≤ s.counters (.email account) + of account s.failed
  below : s.counters (.email account) + (of account s.checked + of account s.failed) <
    loginFailMaxPerEmail + s.peak

variable {normalizeEmail account} {s s' : State} {a : Action} {q : Attempt}

lemma of_cons (l : List Attempt) : of account (q :: l) = of account l + q.weight account := by
  simp [of, Attempt.weight, countP_cons]

lemma of_erase {l} (hq : q ∈ l) : of account l = of account (l.erase q) + q.weight account :=
  ((perm_cons_erase hq).countP_eq _).trans (of_cons _)

lemma le_incr (m : Key → ℕ) (k k' : Key) : m k ≤ incr m k' k := by
  by_cases h : k = k' <;> simp [incr, h]

lemma le_recordFailure (m : Key → ℕ) (ok : Bool) (k : Key) : m k ≤ recordFailure m q ok k := by
  cases ok with
  | false => exact le_incr ..
  | true => exact Nat.le_trans (le_incr ..) (le_incr ..)

lemma recordFailure_account (m : Key → ℕ) (ok : Bool) :
    recordFailure m q ok (.email account) = m (.email account) + q.weight account := by
  by_cases h : q.email = account <;> cases ok <;>
    simp [recordFailure, incr, Attempt.weight, h, Ne.symm]

lemma lowers_of_le (h : ∀ k, s.counters k ≤ s'.counters k) : Lowers s a s' :=
  fun k hlt => absurd hlt (Nat.not_lt.2 (h k))

lemma inv_delete (h : Inv account s) (k : Key) :
    Inv account (s.delete account k) ∧
      ∀ k', (s.delete account k).counters k' < s.counters k' → k' = k := by
  obtain ⟨hw, hb⟩ := h
  refine ⟨⟨?_, ?_⟩, fun k' hlt => by_contra fun hk => ?_⟩
  · dsimp only [State.delete]
    split
    · exact Nat.zero_le _
    · next hk => rwa [update_of_ne (Ne.symm hk)]
  · dsimp only [State.delete]
    rw [update_apply]
    split <;> omega
  · dsimp only [State.delete] at hlt
    rw [update_of_ne hk] at hlt
    exact Nat.lt_irrefl _ hlt

lemma inv_step (h : Inv account s) (hs : step normalizeEmail account s a = some s') :
    Inv account s' ∧ Lowers s a s' := by
  obtain ⟨hw, hb⟩ := h
  have hsm : ∀ k, s.counters k ≤ s.counters k := fun _ => Nat.le_refl _
  cases a with
  | login email ip =>
    obtain ⟨hl, ⟨⟩⟩ := ite_none_left_eq_some.1 hs
    refine ⟨⟨hw, ?_⟩, lowers_of_le hsm⟩
    -- the counter of the account is below the limit, or the attempt is not for it
    by_cases he : normalizeEmail email = account
    · subst he
      dsimp only at hl ⊢
      omega
    · simp only [of_cons, Attempt.weight, if_neg he]
      omega
  | authenticate q ok =>
    obtain ⟨hq, rfl⟩ := ite_some_none_eq_some.1 hs
    have hers : of account _ = _ := of_erase hq
    cases ok <;> refine ⟨⟨?_, ?_⟩, lowers_of_le hsm⟩ <;> simp [of_cons] <;> omega
  | recordFailure q ok =>
    obtain ⟨hq, rfl⟩ := ite_some_none_eq_some.1 hs
    have hers : of account _ = _ := of_erase hq
    refine ⟨⟨?_, ?_⟩, lowers_of_le fun k => le_recordFailure _ _ _⟩ <;>
      simp only [recordFailure_account] <;> omega
  | reset q ok =>
    obtain ⟨hq, rfl⟩ := ite_some_none_eq_some.1 hs
    obtain ⟨hi, hk⟩ := inv_delete ⟨hw, hb⟩ (.email q.email)
    cases ok with
    | false => exact ⟨⟨hw, hb⟩, lowers_of_le hsm⟩
    | true => exact ⟨{ hi with }, fun k hlt => .inr ⟨q, rfl, hk k hlt⟩⟩
  | giveUp q =>
    obtain ⟨hq, rfl⟩ := ite_some_none_eq_some.1 hs
    have hers : of account _ = _ := of_erase hq
    refine ⟨⟨hw, ?_⟩, lowers_of_le hsm⟩
    dsimp only
    omega
  | expire k =>
    cases hs
    obtain ⟨hi, hk⟩ := inv_delete ⟨hw, hb⟩ k
    exact ⟨hi, fun k' hlt => .inl (by rw [hk k' hlt])⟩

/-- In one life of its counter an account sees fewer wrong passwords than the limit and the most
attempts that were under way at one time. -/
lemma wrong_lt (acts : List Action) :
    Always (step normalizeEmail account) (fun s a s' =>
      s'.wrong < loginFailMaxPerEmail + s'.peak ∧ Lowers s a s') {} acts := by
  refine always_of_inv (fun s a s' h hs => (inv_step h hs).1) (fun s a s' h hs => ?_)
    ⟨Nat.zero_le _, Nat.zero_lt_succ _⟩
  obtain ⟨⟨hw, hb⟩, hl⟩ := inv_step h hs
  exact ⟨by omega, hl⟩

/-! ### Attempts that do not overlap -/

/-- An attempt for the account begins only when no other one for it is between its check and the
count of its failure. -/
def Apart (normalizeEmail : String → String) (account : String) (s : State) : Action → Prop
  | .login email _ =>
    normalizeEmail email = account → of account s.checked = 0 ∧ of account s.failed = 0
  | _ => True

instance (s : State) (a : Action) : Decidable (Apart normalizeEmail account s a) := by
  cases a <;> unfold Apart <;> infer_instance

lemma peak_step (h : s.peak ≤ 1 ∧ of account s.checked + of account s.failed ≤ 1)
    (hok : Apart normalizeEmail account s a) (hs : step normalizeEmail account s a = some s') :
    s'.peak ≤ 1 ∧ of account s'.checked + of account s'.failed ≤ 1 := by
  obtain ⟨hp, hc⟩ := h
  cases a with
  | login email ip =>
    obtain ⟨-, ⟨⟩⟩ := ite_none_left_eq_some.1 hs
    have hle : of account (⟨normalizeEmail email, ip⟩ :: s.checked) + of account s.failed ≤ 1 := by
      rw [of_cons]
      by_cases he : normalizeEmail email = account
      · obtain ⟨hch, hf⟩ := hok he
        simp [Attempt.weight, he, hch, hf]
      · simpa [Attempt.weight, he] using hc
    exact ⟨Nat.max_le.2 ⟨hp, hle⟩, hle⟩
  | authenticate q ok =>
    obtain ⟨hq, rfl⟩ := ite_some_none_eq_some.1 hs
    have hers : of account _ = _ := of_erase hq
    cases ok <;> refine ⟨hp, ?_⟩ <;> simp [of_cons] <;> omega
  | recordFailure q ok | giveUp q =>
    obtain ⟨hq, rfl⟩ := ite_some_none_eq_some.1 hs
    have hers : of account _ = _ := of_erase hq
    refine ⟨hp, ?_⟩
    dsimp only
    omega
  | reset q ok =>
    obtain ⟨hq, rfl⟩ := ite_some_none_eq_some.1 hs
    cases ok <;> exact ⟨hp, hc⟩
  | expire k =>
    cases hs
    exact ⟨hp, hc⟩

/-- **The bound on guesses** of one life of the account's counter, where attempts for the account do
not overlap; and, in every run, only its expiry and a login of its own account lower a counter. -/
theorem wrong_le_of_apart (normalizeEmail : String → String) (account : String)
    (acts : List Action) :
    (Meets (step normalizeEmail account) (Apart normalizeEmail account) {} acts →
      Always (step normalizeEmail account) (fun _ _ s' => s'.wrong ≤ loginFailMaxPerEmail)
        {} acts) ∧
    Always (step normalizeEmail account) Lowers {} acts := by
  refine ⟨fun hm pre a post u u' heq hp hs => ?_, fun pre a post u u' heq hp hs =>
    (wrong_lt acts pre a post u u' heq hp hs).2⟩
  have hpk := always_of_meets
    (I := fun s => s.peak ≤ 1 ∧ of account s.checked + of account s.failed ≤ 1)
    (fun _ _ _ h hok hs => peak_step h hok hs) (fun _ _ _ h hok hs => (peak_step h hok hs).1)
    ⟨Nat.zero_le _, Nat.zero_le _⟩ hm pre a post u u' heq hp hs
  have hw := (wrong_lt acts pre a post u u' heq hp hs).1
  omega

/-- A wrong password, from the check to the count. -/
def wrongGuess (q : Attempt) : List Action :=
  [.login q.email q.ip, .authenticate q false, .recordFailure q true]

/-- One guess after the other, with another account's attempt between. -/
def guesses : List Action :=
  .login "b" "2" :: (replicate 5 (wrongGuess ⟨"a", "1"⟩)).flatten ++ [.authenticate ⟨"b", "2"⟩ true]

theorem wrong_le_guesses :
    Meets (step id "a") (Apart id "a") {} guesses ∧
      Always (step id "a") (fun _ _ s' => s'.wrong ≤ loginFailMaxPerEmail) {} guesses ∧
      ∃ s, exec (step id "a") {} guesses = some s ∧ s.wrong = 5 ∧
        step id "a" s (.login "a" "3") = none := by
  have hm : Meets (step id "a") (Apart id "a") {} guesses := by decide +kernel
  exact ⟨hm, (wrong_le_of_apart id "a" guesses).1 hm, by decide +kernel⟩

/-- Six attempts are checked before the first of them is counted. -/
theorem six_wrong :
    ∃ s, exec (step id "a") {} (replicate 6 (.login "a" "1") ++
        replicate 6 (.authenticate ⟨"a", "1"⟩ false)) = some s ∧
      loginFailMaxPerEmail < s.wrong := by
  decide +kernel

end Zecurity.LoginLimiter
