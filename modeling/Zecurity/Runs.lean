import Mathlib.Data.List.Induction

/-!
Schedules of a system given by a partial step function, and the two induction rules for
them.

A step function `S → A → Option S` answers `none` where the action is not enabled. A
schedule is a list of actions; `exec` carries it out. A condition `ok s a` is asked of an
action in the state it is taken from, and `Meets` says that a whole schedule meets it.
-/

namespace Zecurity.Runs

variable {S A : Type*} (step : S → A → Option S)

/-- Carry out a schedule: `none` as soon as one of its actions is not enabled. -/
def exec : S → List A → Option S
  | s, [] => some s
  | s, a :: as => (step s a).bind fun s' => exec s' as

/-- Every action of the schedule meets `ok` in the state it is taken from. -/
def Meets (ok : S → A → Prop) : S → List A → Prop
  | _, [] => True
  | s, a :: as => ok s a ∧ ((step s a).elim True fun s' => Meets ok s' as)

/-- Every step that the schedule takes is as `P` says. -/
def Always (P : S → A → S → Prop) (s : S) (as : List A) : Prop :=
  ∀ pre a post u u', as = pre ++ a :: post → exec step s pre = some u → step u a = some u' →
    P u a u'

instance decidableMeets (ok : S → A → Prop) [∀ s a, Decidable (ok s a)] :
    ∀ (s : S) (as : List A), Decidable (Meets step ok s as)
  | _, [] => .isTrue trivial
  | s, a :: as =>
    have : Decidable ((step s a).elim True fun s' => Meets step ok s' as) :=
      match step s a with
      | none => .isTrue trivial
      | some s' => decidableMeets ok s' as
    inferInstanceAs (Decidable (_ ∧ _))

variable {s s' : S} {a : A} {as : List A} {ok : S → A → Prop} {I : S → Prop}

@[simp] lemma exec_nil (s : S) : exec step s [] = some s := rfl

@[simp] lemma exec_cons (s : S) (a : A) (as : List A) :
    exec step s (a :: as) = (step s a).bind fun s' => exec step s' as := rfl

lemma exec_cons_some (h : exec step s (a :: as) = some s') :
    ∃ m, step s a = some m ∧ exec step m as = some s' := by
  simpa [Option.bind_eq_some_iff] using h

variable {step} in
lemma Meets.cons (h : step s a = some s') (hok : ok s a) (hr : Meets step ok s' as) :
    Meets step ok s (a :: as) := ⟨hok, by rw [h]; exact hr⟩

variable {step} in
lemma Meets.cons_of_forall (hok : ok s a) (hr : ∀ s', Meets step ok s' as) :
    Meets step ok s (a :: as) := by
  refine ⟨hok, ?_⟩
  cases step s a with
  | none => trivial
  | some s' => exact hr s'

variable {step} in
lemma Meets.of_forall (h : ∀ a ∈ as, ∀ s, ok s a) : ∀ s, Meets step ok s as := by
  induction as with
  | nil => exact fun _ => trivial
  | cons a as ih =>
    intro s
    exact .cons_of_forall (h a List.mem_cons_self s)
      (ih fun b hb => h b (List.mem_cons_of_mem a hb))

variable {step} in
lemma Meets.append {bs} (h : Meets step ok s as) (he : exec step s as = some s')
    (hr : Meets step ok s' bs) : Meets step ok s (as ++ bs) := by
  induction as generalizing s with
  | nil =>
    cases he
    exact hr
  | cons a as ih =>
    obtain ⟨m, hm, he⟩ := exec_cons_some step he
    obtain ⟨hok, h⟩ := h
    rw [hm] at h
    exact .cons hm hok (ih h he)

variable {step} in
/-- A schedule meets a condition exactly if each of its actions does, in the state that the
actions before it lead to. -/
lemma meets_iff :
    Meets step ok s as ↔
      ∀ pre a post s', as = pre ++ a :: post → exec step s pre = some s' → ok s' a := by
  induction as generalizing s with
  | nil => simp [Meets]
  | cons b bs ih =>
    constructor
    · rintro ⟨hok, hr⟩ pre a post s' heq he
      cases pre with
      | nil =>
        obtain ⟨rfl, rfl⟩ : b = a ∧ bs = post := by simpa using heq
        cases he
        exact hok
      | cons c pre =>
        obtain ⟨rfl, hbs⟩ : b = c ∧ bs = pre ++ a :: post := by simpa using heq
        obtain ⟨m, hm, he⟩ := exec_cons_some step he
        rw [hm] at hr
        exact ih.1 hr pre a post s' hbs he
    · intro h
      refine ⟨h [] b bs s rfl rfl, ?_⟩
      cases hm : step s b with
      | none => trivial
      | some m =>
        refine ih.2 fun pre a post s' heq he => h (b :: pre) a post s' ?_ ?_
        · rw [heq, List.cons_append]
        · rw [exec_cons, hm]
          exact he

variable {step} in
lemma Meets.left {bs} (h : Meets step ok s (as ++ bs)) : Meets step ok s as := by
  refine meets_iff.2 fun pre a post s' heq he => ?_
  refine meets_iff.1 h pre a (post ++ bs) s' ?_ he
  rw [heq, List.append_assoc, List.cons_append]

variable {step} in
lemma Meets.and {ok' : S → A → Prop} (h : Meets step ok s as) (h' : Meets step ok' s as) :
    Meets step (fun s a => ok s a ∧ ok' s a) s as :=
  meets_iff.2 fun pre a post s' heq he =>
    ⟨meets_iff.1 h pre a post s' heq he, meets_iff.1 h' pre a post s' heq he⟩

variable {step} in
/-- **The rule for counters.** What a step raises by at most one stays below a bound that leaves
room for the whole schedule. -/
theorem meets_of_count {f : S → ℕ} {n} (hf : ∀ s a s', step s a = some s' → f s' ≤ f s + 1)
    (hn : f s + as.length ≤ n) : Meets step (fun s _ => f s < n) s as := by
  induction as generalizing s with
  | nil => trivial
  | cons a as ih =>
    rw [List.length_cons] at hn
    refine ⟨by omega, ?_⟩
    cases hm : step s a with
    | none => trivial
    | some m =>
      have := hf s a m hm
      exact ih (by omega)

lemma exec_append (s : S) (as bs : List A) :
    exec step s (as ++ bs) = (exec step s as).bind fun s' => exec step s' bs := by
  induction as generalizing s with
  | nil => rfl
  | cons a as ih =>
    simp only [List.cons_append, exec_cons, Option.bind_assoc]
    congr 1
    funext s'
    exact ih s'

variable {step} in
/-- **The invariant rule.** What every step preserves holds after every schedule. -/
theorem exec_inv (hs : ∀ s a s', I s → step s a = some s' → I s') :
    ∀ {s s' : S} {as : List A}, I s → exec step s as = some s' → I s'
  | s, s', [], hI, h => by
    cases h
    exact hI
  | s, s', a :: as, hI, h => by
    obtain ⟨m, hm, hr⟩ := exec_cons_some step h
    exact exec_inv hs (hs s a m hI hm) hr

variable {step} in
/-- **The invariant rule under a condition.** What every step that meets `ok` preserves
holds after every schedule whose steps all meet `ok`. -/
theorem exec_inv_of_meets (hs : ∀ s a s', I s → ok s a → step s a = some s' → I s') :
    ∀ {s s' : S} {as : List A}, I s → Meets step ok s as → exec step s as = some s' → I s'
  | s, s', [], hI, _, h => by
    cases h
    exact hI
  | s, s', a :: as, hI, hmt, h => by
    obtain ⟨m, hm, hr⟩ := exec_cons_some step h
    obtain ⟨hok, hm'⟩ := hmt
    rw [hm] at hm'
    exact exec_inv_of_meets hs (hs s a m hI hok hm) hm' hr

variable {step} in
/-- **The invariant rule with the schedule so far.** -/
theorem exec_inv_trace {I : List A → S → Prop} (hI : I [] s)
    (hs : ∀ as u a u', exec step s as = some u → I as u → step u a = some u' → I (as ++ [a]) u') :
    ∀ {as : List A} {u : S}, exec step s as = some u → I as u := by
  intro as
  induction as using List.reverseRecOn with
  | nil =>
    intro u h
    cases h
    exact hI
  | append_singleton as a ih =>
    intro u h
    rw [exec_append] at h
    obtain ⟨m, hm, hl⟩ := Option.bind_eq_some_iff.1 h
    obtain ⟨u', hu', hn⟩ := exec_cons_some step hl
    obtain rfl : u' = u := by simpa using hn
    exact hs as m a u' hm (ih hm) hu'

variable {step} in
/-- **The rule for steps.** What an invariant and the condition give of one step holds of
every step of a schedule that meets the condition. -/
theorem always_of_meets {P : S → A → S → Prop}
    (hst : ∀ s a s', I s → ok s a → step s a = some s' → I s')
    (hP : ∀ s a s', I s → ok s a → step s a = some s' → P s a s') (hI : I s)
    (hm : Meets step ok s as) : Always step P s as := by
  intro pre a post u u' heq hp hs
  subst heq
  exact hP u a u' (exec_inv_of_meets hst hI hm.left hp) (meets_iff.1 hm pre a post u rfl hp) hs

variable {step} in
/-- **The rule for steps without a condition.** -/
theorem always_of_inv {P : S → A → S → Prop} (hst : ∀ s a s', I s → step s a = some s' → I s')
    (hP : ∀ s a s', I s → step s a = some s' → P s a s') (hI : I s) : Always step P s as := by
  intro pre a post u u' heq hp hs
  exact hP u a u' (exec_inv hst hI hp) hs

variable {step} in
/-- A property of the states after each step, which holds at the start, holds on the way. -/
lemma state_of_always {Q : S → Prop} {u pre post} (h : Always step (fun _ _ s' => Q s') s as)
    (hs : Q s) (heq : as = pre ++ post) (hp : exec step s pre = some u) : Q u := by
  rcases List.eq_nil_or_concat pre with rfl | ⟨before, last, rfl⟩
  · cases hp
    exact hs
  · rw [List.concat_eq_append, exec_append] at hp
    obtain ⟨m, hm, hl⟩ := Option.bind_eq_some_iff.1 hp
    obtain ⟨u', hu', hr⟩ := exec_cons_some step hl
    obtain rfl : u' = u := by simpa using hr
    refine h before last post m u' ?_ hm hu'
    rw [heq, List.concat_eq_append, List.append_assoc, List.singleton_append]

section

variable {α β : Type*} {o : Option α} {y : β}

/-- A step that reads a value and checks it. -/
lemma bind_ite_eq_some {p : α → Prop} [DecidablePred p] {f : α → Option β} :
    (o.bind fun x => if p x then f x else none) = some y ↔
      ∃ x, o = some x ∧ p x ∧ f x = some y := by
  simp [Option.bind_eq_some_iff]

lemma ite_map_eq_some {p : Prop} [Decidable p] {f : α → β} :
    (if p then o.map f else none) = some y ↔ p ∧ ∃ x, o = some x ∧ f x = y := by
  simp [Option.map_eq_some_iff]

end

section Update

variable {α β : Type*} [DecidableEq α] {a i : α}

/-- What a function that was changed at one place answers. -/
lemma update_apply_eq_iff {f : α → β} {b y : β} :
    Function.update f a b i = y ↔ i = a ∧ y = b ∨ i ≠ a ∧ f i = y := by
  by_cases hi : i = a
  · subst hi
    simp [eq_comm]
  · simp [hi]

lemma mem_update {f : α → List β} {b y l} (hl : ∀ z ∈ l, z ∈ f a ∨ z = b)
    (h : y ∈ Function.update f a l i) : y ∈ f i ∨ i = a ∧ y = b := by
  grind

end Update

/-! ### Counters of 64 bits -/

lemma eq_of_ofNat_eq {a b} (h : UInt64.ofNat b = UInt64.ofNat a) (hle : a ≤ b)
    (hlt : b < a + UInt64.size) : b = a := by
  have hm := congrArg UInt64.toNat h
  simp only [UInt64.toNat_ofNat'] at hm
  have hs : UInt64.size = 18446744073709551616 := rfl
  omega

lemma toNat_succ_le (c : UInt64) : (c + 1).toNat ≤ c.toNat + 1 := by
  rw [UInt64.toNat_add]
  exact Nat.mod_le _ _

lemma lt_succ {c : UInt64} (h : c.toNat + 1 < UInt64.size) : c < c + 1 := by
  have hs : UInt64.size = 2 ^ 64 := rfl
  rw [UInt64.lt_iff_toNat_lt, UInt64.toNat_add, UInt64.toNat_one, Nat.mod_eq_of_lt (hs ▸ h)]
  exact Nat.lt_succ_self _

lemma ofNat_countP_concat (p : A → Bool) (as : List A) (a : A) :
    UInt64.ofNat (as.countP p) + (if p a then 1 else 0) = .ofNat ((as ++ [a]).countP p) := by
  rw [List.countP_append, List.countP_singleton, UInt64.ofNat_add]
  split <;> rfl

/-- Where such a counter has not moved between two points of a schedule of fewer than `2 ^ 64`
events, nothing that it counts is between them. -/
lemma quiet_of_ofNat_countP_eq {p : A → Bool} {bs} (hlen : (as ++ bs).length < UInt64.size)
    (h : UInt64.ofNat ((as ++ bs).countP p) = .ofNat (as.countP p)) : ∀ b ∈ bs, p b = false := by
  have hle : (as ++ bs).countP p ≤ (as ++ bs).length := List.countP_le_length
  have heq := eq_of_ofNat_eq h (by rw [List.countP_append]; omega) (by omega)
  rw [List.countP_append, Nat.add_eq_left] at heq
  exact fun b hb => by simpa using List.countP_eq_zero.1 heq b hb

/-! ### Places in a schedule -/

/-- Two places of one schedule, each with an event that is not before the other, are the same. -/
lemma split_unique {pre pre' post post' b} (h : pre ++ a :: post = pre' ++ b :: post')
    (ha : a ∉ pre') (hb : b ∉ pre) : pre = pre' ∧ a = b := by
  rcases List.append_eq_append_iff.1 h with ⟨between, hp, hm⟩ | ⟨between, hp, hm⟩
  · cases between with
    | nil =>
      obtain ⟨rfl, -⟩ : a = b ∧ post = post' := by simpa using hm
      exact ⟨by simpa using hp.symm, rfl⟩
    | cons x between =>
      obtain ⟨rfl, -⟩ : a = x ∧ post = between ++ b :: post' := by simpa using hm
      exact absurd (by rw [hp]; simp) ha
  · cases between with
    | nil =>
      obtain ⟨rfl, -⟩ : b = a ∧ post' = post := by simpa using hm
      exact ⟨by simpa using hp, rfl⟩
    | cons x between =>
      obtain ⟨rfl, -⟩ : b = x ∧ post' = between ++ a :: post := by simpa using hm
      exact absurd (by rw [hp]; simp) hb

end Zecurity.Runs

/-! ### Sequences of checks that fail with a text -/

namespace Zecurity.Checks

def ensure (c : Prop) [Decidable c] (err : String) : Except String Unit :=
  if c then .ok () else .error err

def orFail {α : Type} (err : String) : Option α → Except String α
  | none => .error err
  | some a => .ok a

lemma ensure_eq_ok {c : Prop} [Decidable c] {err u} : ensure c err = .ok u ↔ c := by
  by_cases h : c <;> simp [ensure, h]

lemma orFail_eq_ok {α : Type} {err : String} {o : Option α} {a : α} :
    orFail err o = .ok a ↔ o = some a := by
  cases o <;> simp [orFail]

lemma bind_eq_ok {ε α β : Type} {x} {f : α → Except ε β} {b} :
    x >>= f = .ok b ↔ ∃ a, x = .ok a ∧ f a = .ok b := by
  cases x <;> simp [bind, Except.bind]

end Zecurity.Checks
