import Mathlib.Order.Nat
import Mathlib.Tactic.SplitIfs
import Zecurity.Runs

/-!
Change hints (`controller/internal/changehint/hub.go`, `client/watch_changes.go`). An action that is
not possible in a state does nothing there.
-/

namespace Zecurity.ChangeHints

open Function (update update_apply update_of_ne update_self)

/-- Workspace and device. -/
abbrev Key := String × String

/-- ACL and transport version. -/
abbrev Versions := UInt64 × UInt64

/-- `always` is the argument of `send`. -/
inductive Phase
  | closed
  | reading (always : Bool)
  | readAcl (always : Bool) (acl : UInt64)
  | ready (always : Bool) (hint : Versions)
  | waiting
  | ending
  deriving DecidableEq

structure Stream where
  key : Key
  slot : Bool
  replaced : Bool
  phase : Phase
  sent : List Versions

inductive Move
  | readAcl | readTransport | send | wake | tick | leave

def Stream.next (v : Versions) (st : Stream) (m : Move) : Stream :=
  match m, st.phase with
  | .readAcl, .reading always => { st with phase := .readAcl always v.1 }
  | .readTransport, .readAcl always acl => { st with phase := .ready always (acl, v.2) }
  | .send, .ready always hint =>
    { st with
      phase := .waiting
      sent := if !always && st.sent.head? = some hint then st.sent else hint :: st.sent }
  | .wake, .waiting => if st.slot then { st with slot := false, phase := .reading false } else st
  | .tick, .waiting => { st with phase := .reading true }
  | .leave, .closed => st
  | .leave, _ => { st with phase := .ending }
  | _, _ => st

structure State where
  versions : String → Versions
  /-- the versions at the last `Notify` of a workspace (ghost) -/
  published : String → Versions
  subs : Key → Option ℕ
  streams : ℕ → Stream

inductive Action
  | bump (workspace : String) (acl : Bool)
  | notify (workspace : String)
  | subscribe (i : ℕ) (key : Key)
  | move (i : ℕ) (m : Move)
  | close (i : ℕ)

def State.step (s : State) : Action → State
  | .bump w acl =>
    let v := s.versions w
    { s with versions := update s.versions w (if acl then (v.1 + 1, v.2) else (v.1, v.2 + 1)) }
  | .notify w =>
    { s with
      published := update s.published w (s.versions w)
      streams := fun i =>
        let st := s.streams i
        if st.key.1 = w ∧ s.subs st.key = some i then { st with slot := true } else st }
  | .subscribe i key =>
    if (s.streams i).phase = .closed then
      { s with
        subs := update s.subs key (some i)
        streams := update (fun j =>
          let st := s.streams j
          if s.subs key = some j then { st with replaced := true } else st) i
          ⟨key, false, false, .reading true, []⟩ }
    else s
  | .move i m =>
    let st := s.streams i
    { s with streams := update s.streams i (st.next (s.versions st.key.1) m) }
  | .close i =>
    let st := s.streams i
    if st.phase = .ending then
      { s with
        subs := fun key => if key = st.key ∧ s.subs key = some i then none else s.subs key
        streams := update s.streams i { st with phase := .closed } }
    else s

def start : State :=
  ⟨fun _ => (0, 0), fun _ => (0, 0), fun _ => none, fun _ => ⟨("", ""), false, false, .closed, []⟩⟩

def run (as : List Action) : State := as.foldl State.step start

/-- A wake-up is pending, or one is being handled that will send at least `p`, or has. -/
def Stream.Covers (st : Stream) (p : Versions) : Prop :=
  st.slot ∨ match st.phase with
    | .closed | .reading _ | .ending => True
    | .readAcl _ acl => p.1 ≤ acl
    | .ready _ hint => p ≤ hint
    | .waiting => ∃ hint ∈ st.sent.head?, p ≤ hint

def Stream.Open (st : Stream) : Prop := st.phase ≠ .closed ∧ st.replaced = false

structure Inv (n : ℕ) (s : State) : Prop where
  count : ∀ w, (s.versions w).1.toNat ≤ n ∧ (s.versions w).2.toNat ≤ n
  published : ∀ w, s.published w ≤ s.versions w
  subs : ∀ key i, s.subs key = some i ↔ (s.streams i).key = key ∧ (s.streams i).Open
  covers : ∀ i, (s.streams i).Open → (s.streams i).Covers (s.published (s.streams i).key.1)

variable {s : State} {st : Stream} {v p : Versions} {m : Move} {n : ℕ}

lemma le_refl (p : Versions) : p ≤ p := ⟨UInt64.le_rfl, UInt64.le_rfl⟩

lemma le_trans {q} (h : p ≤ q) (h' : q ≤ v) : p ≤ v :=
  ⟨UInt64.le_trans h.1 h'.1, UInt64.le_trans h.2 h'.2⟩

lemma covers_next (hp : p ≤ v) (h : st.Covers p) : (st.next v m).Covers p := by
  unfold Stream.next
  obtain ⟨ha, ht⟩ := Prod.le_def.1 hp
  split <;> grind [Stream.Covers, Prod.le_def]

lemma next_kept : (st.next v m).key = st.key ∧ ((st.next v m).Open ↔ st.Open) := by
  unfold Stream.next
  split <;> grind [Stream.Open]

lemma Stream.Covers.mono {q} (h : st.Covers q) (hp : p ≤ q) : st.Covers p := by
  unfold Stream.Covers at h ⊢
  split at h <;> grind [Prod.le_def]

lemma inv_step (h : Inv n s) (hn : n + 1 < UInt64.size) (a : Action) : Inv (n + 1) (s.step a) := by
  have hc : ∀ w, (s.versions w).1.toNat ≤ n + 1 ∧ (s.versions w).2.toNat ≤ n + 1 := fun w =>
    ⟨(h.count w).1.trans (Nat.le_succ n), (h.count w).2.trans (Nat.le_succ n)⟩
  cases a with
  | bump w acl =>
    have hw := h.count w
    have h1 : (s.versions w).1 < (s.versions w).1 + 1 := Runs.lt_succ (by omega)
    have h2 : (s.versions w).2 < (s.versions w).2 + 1 := Runs.lt_succ (by omega)
    have ha := Runs.toNat_succ_le (s.versions w).1
    have ht := Runs.toNat_succ_le (s.versions w).2
    refine ⟨fun w' => ?_, fun w' => le_trans (h.published w') ?_, h.subs, h.covers⟩
    · simp only [State.step, update_apply]
      split_ifs
      · exact ⟨by simp only; omega, by simp only; omega⟩
      · exact ⟨by simp only; omega, by simp only; omega⟩
      · exact hc w'
    · simp only [State.step, update_apply]
      split_ifs with hw'
      · subst hw'
        exact ⟨UInt64.le_of_lt h1, UInt64.le_rfl⟩
      · subst hw'
        exact ⟨UInt64.le_rfl, UInt64.le_of_lt h2⟩
      · exact le_refl _
  | notify w =>
    refine ⟨hc, fun w' => ?_, fun key i => ?_, fun i ho => ?_⟩
    · simp only [State.step, update_apply]
      split_ifs with hw
      · exact hw ▸ le_refl _
      · exact h.published w'
    · simp only [State.step]
      split_ifs <;> exact h.subs key i
    · have ho : (s.streams i).Open := by
        simp only [State.step] at ho
        split_ifs at ho <;> exact ho
      simp only [State.step, update_apply, (h.subs _ i).2 ⟨rfl, ho⟩, and_true]
      split_ifs
      · exact .inl rfl
      · exact h.covers i ho
  | subscribe i key =>
    simp only [State.step]
    split_ifs with hi
    · refine ⟨hc, h.published, fun key' j => ?_, fun j ho => ?_⟩
      · grind [h.subs key' j, h.subs key j, Stream.Open]
      · simp only [update_apply] at ho ⊢
        split_ifs at ho ⊢
        · exact .inr trivial
        · cases ho.2
        · exact h.covers j ho
    · exact ⟨hc, h.published, h.subs, h.covers⟩
  | move i m =>
    have hn := @next_kept (s.streams i) (s.versions (s.streams i).key.1) m
    refine ⟨hc, h.published, fun key j => ?_, fun j ho => ?_⟩
    · simp only [State.step, update_apply]
      split_ifs with hj
      · subst hj
        rw [hn.1, hn.2]
        exact h.subs key j
      · exact h.subs key j
    · simp only [State.step, update_apply] at ho ⊢
      split_ifs at ho ⊢ with hj
      · subst hj
        rw [hn.1]
        exact covers_next (h.published _) (h.covers j (hn.2.1 ho))
      · exact h.covers j ho
  | close i =>
    simp only [State.step]
    split_ifs with he
    · refine ⟨hc, h.published, fun key j => ?_, fun j ho => ?_⟩
      · grind [h.subs key j, Stream.Open]
      · grind [h.covers j, Stream.Open]
    · exact ⟨hc, h.published, h.subs, h.covers⟩

lemma inv_foldl (as : List Action) (h : Inv n s) (hn : n + as.length < UInt64.size) (w : String) :
    Inv (n + as.length) (as.foldl State.step s) ∧
      s.published w ≤ (as.foldl State.step s).published w := by
  induction as generalizing s n with
  | nil => exact ⟨h, le_refl _⟩
  | cons a as ih =>
    rw [List.length_cons, Nat.add_comm as.length, ← Nat.add_assoc] at hn ⊢
    obtain ⟨hi, hp⟩ := ih (inv_step h (by omega) a) hn
    refine ⟨hi, le_trans ?_ hp⟩
    cases a with
    | notify w' =>
      simp only [State.step, update_apply]
      split_ifs with hw
      · exact hw ▸ h.published w
      · exact le_refl _
    | bump | move => exact le_refl _
    | subscribe | close =>
      simp only [State.step]
      split_ifs <;> exact le_refl _

lemma inv_run {as} (hlen : as.length < UInt64.size) : Inv as.length (run as) := by
  have h : Inv 0 start := ⟨fun _ => ⟨Nat.le_refl _, Nat.le_refl _⟩, fun _ => le_refl _,
    by simp [start, Stream.Open], by simp [start, Stream.Open]⟩
  simpa [run] using (inv_foldl as h (by omega) "").1

/-- **No hint is missed**, in every run of fewer than `2 ^ 64` events: at every moment after a
publication an open stream covers the versions that were there; a device has one open stream; and
closing one removes no other. -/
theorem hints_not_missed {as : List Action} (hlen : as.length < UInt64.size) :
    (∀ pre w post, as = pre ++ .notify w :: post → ∀ i, ((run as).streams i).Open →
      ((run as).streams i).key.1 = w → ((run as).streams i).Covers ((run pre).versions w)) ∧
    (∀ i j, ((run as).streams i).Open → ((run as).streams j).Open →
      ((run as).streams i).key = ((run as).streams j).key → i = j) ∧
    ∀ i key j, (run as).subs key = some j → j ≠ i →
      ((run as).step (.close i)).subs key = some j := by
  have h := inv_run hlen
  refine ⟨?_, fun i j hi hj hk => ?_, fun i key j hk hj => ?_⟩
  · rintro pre w post rfl i ho hw
    rw [List.length_append, List.length_cons] at hlen
    have hi := inv_step (@inv_run pre (by omega)) (by omega) (.notify w)
    have hp := (inv_foldl post hi (by omega) w).2
    have hv : ((run pre).step (.notify w)).published w = (run pre).versions w := update_self ..
    refine (h.covers i ho).mono ?_
    rw [hw, ← hv]
    simpa only [run, List.foldl_append, List.foldl_cons] using hp
  · have := ((h.subs _ i).2 ⟨hk, hi⟩).symm.trans ((h.subs _ j).2 ⟨rfl, hj⟩)
    exact Option.some.inj this
  · grind [State.step, update_apply]

/-- A change is published while a stream reads the versions. -/
def readsMeanwhile : List Action :=
  [.subscribe 0 ("w", "d"), .move 0 .readAcl, .bump "w" true, .notify "w", .move 0 .readTransport,
    .move 0 .send, .move 0 .wake, .move 0 .readAcl, .move 0 .readTransport, .move 0 .send]

theorem hints_not_missed_readsMeanwhile :
    ((run readsMeanwhile).streams 0).sent = [(1, 0), (0, 0)] ∧
      ((run readsMeanwhile).streams 0).Covers (1, 0) := by
  have hc := (@hints_not_missed readsMeanwhile (by decide)).1 (readsMeanwhile.take 3) "w"
    (readsMeanwhile.drop 4) rfl 0 (by unfold Stream.Open; decide +kernel) (by decide +kernel)
  have hv : (run (readsMeanwhile.take 3)).versions "w" = (1, 0) := by decide +kernel
  exact ⟨by decide +kernel, hv ▸ hc⟩

end Zecurity.ChangeHints
