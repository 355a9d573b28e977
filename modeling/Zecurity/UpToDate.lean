import Zecurity.SnapshotPlanes

/-!
A poll that is answered with `up_to_date` finds the client in possession of every change that has
been notified.

Within one process a number stands for the changes that have been counted up to it, provided that
no change is counted while a compile has queries behind it that missed the change.
-/

namespace Zecurity.SnapshotPlanes

open EpochCache FiniteMap List Option Runs

/-! ### What is asked of an answer -/

/-- The snapshot of a last attempt, which may be returned uncached. -/
def last (fl : Flight Snap Outcome) : Option Snap :=
  match fl.phase with
  | .compiled _ x => if fl.lastAttempt then some x else none
  | .regetting x _ => if fl.lastAttempt then some x else none
  | _ => none

/-- A change is counted only while the compiles under way have seen it, and is through only while
no last attempt has a version that does not count it; and a client of whose snapshot's version the
controller is asked has it from the process that runs, or a version that this process has not
reached. -/
def Settled (s : State) : Action → Prop
  | .incr m => All s.flights fun fl => fl.sees m = true
  | .inval m => All s.flights fun fl =>
      ∀ x ∈ last fl, ∀ q ∈ s.counted, q.1 = m → q.2 ≤ x.version
  | .answer i => ∀ c ∈ s.calls.lookup i, ∀ x ∈ c.held,
      x.process = s.process ∨ s.version < x.version
  | _ => True

instance (s : State) : ∀ a, Decidable (Settled s a)
  | .incr _ | .inval _ => inferInstanceAs (Decidable (All _ _))
  | .answer i => inferInstanceAs (Decidable (∀ c ∈ s.calls.lookup i, _))
  | .commit _ | .restart | .poll _ _ | .get _ _ | .enter _ _ | .capture _ | .read _ | .fail _
  | .versionRead _ | .store _ | .reget _ _ | .release _ | .deliver _ | .forget _ =>
    inferInstanceAs (Decidable True)

/-! ### The invariant -/

/-- What the version of a snapshot stands for, if it is of the process that runs. -/
structure Faithful (l : Ledger) (z : Snap) : Prop where
  process : z.process ≤ l.process
  version : z.process = l.process → z.version ≤ l.version
  base : z.process = l.process → ∀ m ∈ l.base, z.Reflects m
  counted : z.process = l.process → ∀ m n, (m, n) ∈ l.counted → n ≤ z.version → z.Reflects m

/-- The version of the snapshot, which is of the process that runs, counts the changes. -/
structure Covers (l : Ledger) (asOf : List Mutation) (y : Snap) : Prop where
  faithful : Faithful l y
  current : y.process = l.process
  notified : ∀ m ∈ asOf, m ∈ l.notified
  counts : ∀ m ∈ asOf, ∀ n, (m, n) ∈ l.counted → n ≤ y.version

structure LedgerInv (l : Ledger) : Prop where
  base : ∀ m ∈ l.base, m ∈ l.committed
  counted : ∀ m n, (m, n) ∈ l.counted → m ∈ l.committed ∧ n ≤ l.version
  notified : ∀ m ∈ l.notified, m ∈ l.base ∨ ∃ n, (m, n) ∈ l.counted
  uncounted : ∀ m ∈ l.uncounted, m ∈ l.committed ∧ m ∉ l.notified ∧ ∀ n, (m, n) ∉ l.counted

/-- What the queries of a compile have seen. -/
def Saw (l : Ledger) (r : List Mutation) : Prop :=
  (∀ m ∈ l.base, m ∈ r) ∧ ∀ m n, (m, n) ∈ l.counted → m ∈ r

def FlightInv (l : Ledger) (epoch : UInt64) (fl : Flight Snap Outcome) : Prop :=
  match fl.phase with
  | .compiling observed seen => observed ≤ epoch ∧ ∀ r ∈ seen, Saw l r
  | .compiled observed x => observed ≤ epoch ∧
      (epoch = observed ∨ fl.lastAttempt = true → Covers l l.notified x)
  | .regetting last _ => fl.lastAttempt = true → Covers l l.notified last
  | .finished (some (x, asOf)) => Covers l asOf x
  | .loop | .finished none => True

structure Call.Inv (l : Ledger) (c : Call) : Prop where
  held : ∀ x, c.held = some x → Faithful l x
  got : ∀ y asOf, c.phase = .got y asOf → Covers l asOf y

structure Inv (s : State) : Prop where
  ledger : LedgerInv s.toLedger
  notifying : ∀ m ∈ s.notifying, ∃ n, (m, n) ∈ s.counted
  slot : ∀ x, s.slot = some x → Covers s.toLedger s.notified x
  flights : ∀ f fl, s.flights.lookup f = some fl → FlightInv s.toLedger s.epoch fl
  calls : ∀ i c, s.calls.lookup i = some c → c.Inv s.toLedger
  replies : ∀ i r, s.replies.lookup i = some r → Faithful s.toLedger r.2
  holds : ∀ k x, s.holds.lookup k = some x → Faithful s.toLedger x

variable {s s' : State} {l l' : Ledger}

/-! ### Changes -/

/-- A later ledger of the same process: what is new is counted with a higher version. -/
structure Ledger.Extends (l l' : Ledger) : Prop where
  process : l'.process = l.process
  version : l.version ≤ l'.version
  base : l'.base = l.base
  counted : ∀ m n, (m, n) ∈ l'.counted → (m, n) ∈ l.counted ∨ l.version < n ∧ m ∉ l.notified
  notified : ∀ m ∈ l.notified, m ∈ l'.notified

variable {c : Call} {fl : Flight Snap Outcome} {epoch epoch' : UInt64} {x : Snap} {i : CallId}
  {f : FlightId} {a : Action} {p : Plane} {z : Snap} {v : UInt64} {asOf : List Mutation}

lemma Faithful.extend (h : Faithful l z) (hl : l.Extends l') : Faithful l' z where
  process := hl.process ▸ h.process
  version hz := UInt64.le_trans (h.version (hz.trans hl.process)) hl.version
  base hz m hm := h.base (hz.trans hl.process) m (hl.base ▸ hm)
  counted hz m n hmn hn := by
    have hz := hz.trans hl.process
    rcases hl.counted m n hmn with hold | ⟨hlt, -⟩
    · exact h.counted hz m n hold hn
    · exact absurd (UInt64.le_trans hn (h.version hz)) (UInt64.not_le.2 hlt)

lemma Covers.extend {y} (h : Covers l asOf y) (hl : l.Extends l') :
    Covers l' asOf y where
  faithful := h.faithful.extend hl
  current := h.current.trans hl.process.symm
  notified m hm := hl.notified m (h.notified m hm)
  counts m hm n hmn := by
    rcases hl.counted m n hmn with hold | ⟨-, hn⟩
    · exact h.counts m hm n hold
    · exact absurd (h.notified m hm) hn

lemma Call.Inv.extend (h : c.Inv l) (hl : l.Extends l') : c.Inv l' :=
  ⟨fun x hx => (h.held x hx).extend hl, fun y asOf hg => (h.got y asOf hg).extend hl⟩

lemma FlightInv.extend (h : FlightInv l epoch fl) (hl : l.Extends l')
    (hn : l'.notified = l.notified)
    (hs : ∀ obs seen, fl.phase = .compiling obs seen → ∀ r ∈ seen, Saw l r → Saw l' r) :
    FlightInv l' epoch fl := by
  obtain ⟨attempt, phase⟩ := fl
  cases phase with
  | loop => trivial
  | compiling obs seen => exact ⟨h.1, fun r hr => hs obs seen rfl r hr (h.2 r hr)⟩
  | compiled obs x => exact ⟨h.1, fun hor => hn ▸ (h.2 hor).extend hl⟩
  | regetting last p => exact fun hls => hn ▸ Covers.extend (h hls) hl
  | finished o =>
    cases o with
    | none => trivial
    | some r => exact Covers.extend h hl

section LedgerSteps

variable (h : LedgerInv l) {m : Mutation}
include h

lemma LedgerInv.notified_committed (hm : m ∈ l.notified) : m ∈ l.committed := by
  rcases h.notified m hm with hb | ⟨n, hn⟩
  · exact h.base m hb
  · exact (h.counted m n hn).1

lemma LedgerInv.commit (hm : m ∉ l.committed) : LedgerInv (l.commit m) where
  base m' hm' := mem_cons_of_mem m (h.base m' hm')
  counted m' n hmn := ⟨mem_cons_of_mem m (h.counted m' n hmn).1, (h.counted m' n hmn).2⟩
  notified := h.notified
  uncounted m' hm' := by
    rcases mem_cons.1 hm' with rfl | hold
    · exact ⟨mem_cons_self, fun hn => hm (h.notified_committed hn),
        fun n hmn => hm (h.counted m' n hmn).1⟩
    · obtain ⟨hc, hr⟩ := h.uncounted m' hold
      exact ⟨mem_cons_of_mem m hc, hr⟩

lemma LedgerInv.withVersion (hv : l.version ≤ v) : LedgerInv { l with version := v } := { h with
  counted := fun m n hmn => ⟨(h.counted m n hmn).1, UInt64.le_trans (h.counted m n hmn).2 hv⟩ }

lemma LedgerInv.count (hlt : l.version < l.version + 1) (hm : m ∈ l.uncounted) :
    LedgerInv (l.count m) where
  base := h.base
  counted m' n hmn := by
    rcases mem_cons.1 hmn with heq | hold
    · cases heq
      exact ⟨(h.uncounted m hm).1, UInt64.le_rfl⟩
    · exact ⟨(h.counted m' n hold).1, UInt64.le_trans (h.counted m' n hold).2 (UInt64.le_of_lt hlt)⟩
  notified m' hm' := (h.notified m' hm').imp_right fun ⟨n, hn⟩ => ⟨n, mem_cons_of_mem _ hn⟩
  uncounted m' hm' := by
    obtain ⟨hmem, hne⟩ := mem_filter.1 hm'
    obtain ⟨hc, hnot, hcn⟩ := h.uncounted m' hmem
    refine ⟨hc, hnot, fun n hmn => ?_⟩
    rcases mem_cons.1 hmn with heq | hold
    · cases heq
      exact of_decide_eq_true hne rfl
    · exact hcn n hold

lemma LedgerInv.notify (hm : ∃ n, (m, n) ∈ l.counted) : LedgerInv (l.notify m) where
  base := h.base
  counted := h.counted
  notified m' hm' := by
    rcases mem_cons.1 hm' with rfl | hold
    · exact .inr hm
    · exact h.notified m' hold
  uncounted m' hm' := by
    obtain ⟨hcm, hn, hc⟩ := h.uncounted m' hm'
    refine ⟨hcm, fun hmem => ?_, hc⟩
    rcases mem_cons.1 hmem with rfl | hold
    · exact hm.elim hc
    · exact hn hold

lemma LedgerInv.restart : LedgerInv l.restart where
  base _ hm := hm
  counted _ _ hmn := by cases hmn
  notified _ hm := .inl (h.notified_committed hm)
  uncounted _ hm := by cases hm

lemma LedgerInv.extends_count (hlt : l.version < l.version + 1) (hm : m ∈ l.uncounted) :
    l.Extends (l.count m) where
  process := rfl
  version := UInt64.le_of_lt hlt
  base := rfl
  notified _ hm' := hm'
  counted m' n hmn := by
    rcases mem_cons.1 hmn with heq | hold
    · cases heq
      exact .inr ⟨hlt, (h.uncounted m hm).2.1⟩
    · exact .inl hold

end LedgerSteps

lemma Ledger.extends_commit (l : Ledger) (m : Mutation) : l.Extends (l.commit m) :=
  ⟨rfl, UInt64.le_rfl, rfl, fun _ _ h => .inl h, fun _ h => h⟩

lemma Ledger.extends_withVersion (l : Ledger) (hv : l.version ≤ v) :
    l.Extends { l with version := v } := ⟨rfl, hv, rfl, fun _ _ h => .inl h, fun _ h => h⟩

lemma Ledger.extends_notify (l : Ledger) (m : Mutation) : l.Extends (l.notify m) :=
  ⟨rfl, UInt64.le_rfl, rfl, fun _ _ h => .inl h, fun _ h => mem_cons_of_mem m h⟩

lemma Faithful.restart (h : Faithful l z) : Faithful l.restart z := by
  have hlt : z.process < l.restart.process := Nat.lt_succ_of_le h.process
  exact ⟨Nat.le_of_lt hlt, fun hz => absurd hz (Nat.ne_of_lt hlt),
    fun hz => absurd hz (Nat.ne_of_lt hlt), fun hz => absurd hz (Nat.ne_of_lt hlt)⟩

lemma FlightInv.later (h : FlightInv l epoch fl) (hlt : epoch < epoch') :
    FlightInv l epoch' fl := by
  obtain ⟨attempt, phase⟩ := fl
  cases phase with
  | loop => trivial
  | compiling obs seen => exact ⟨UInt64.le_trans h.1 (UInt64.le_of_lt hlt), h.2⟩
  | compiled obs x =>
    have ho := UInt64.lt_of_le_of_lt h.1 hlt
    exact ⟨UInt64.le_of_lt ho, fun hor => h.2 (.inr (hor.resolve_left (UInt64.ne_of_lt ho).symm))⟩
  | regetting => exact h
  | finished o =>
    cases o with
    | none => trivial
    | some r => exact h

lemma Covers.notify {m} (h : Covers l l.notified x) (hm : ∀ n, (m, n) ∈ l.counted → n ≤ x.version) :
    Covers (l.notify m) (l.notify m).notified x where
  faithful := h.faithful.extend (l.extends_notify m)
  current := h.current
  notified _ hm' := hm'
  counts m' hm' n hmn := by
    rcases mem_cons.1 hm' with rfl | hold
    · exact hm n hmn
    · exact h.counts m' hold n hmn

lemma FlightInv.notify {m} (h : FlightInv l epoch fl) (hlt : epoch < epoch')
    (hl : ∀ x ∈ last fl, ∀ q ∈ l.counted, q.1 = m → q.2 ≤ x.version) :
    FlightInv (l.notify m) epoch' fl := by
  have hn := h.later hlt
  obtain ⟨attempt, phase⟩ := fl
  have hl' : ∀ x, last ⟨attempt, phase⟩ = some x →
      ∀ n, (m, n) ∈ l.counted → n ≤ x.version := fun x hx n hmn => hl x hx (m, n) hmn rfl
  cases phase with
  | loop => trivial
  | compiling obs seen => exact hn
  | compiled obs x =>
    refine ⟨hn.1, fun hor => ?_⟩
    have ha := hor.resolve_left (UInt64.ne_of_lt (UInt64.lt_of_le_of_lt h.1 hlt)).symm
    exact (h.2 (.inr ha)).notify (hl' x (if_pos ha))
  | regetting last p =>
    intro ha
    exact Covers.notify (h ha) (hl' last (if_pos ha))
  | finished o =>
    cases o with
    | none => trivial
    | some r => exact Covers.extend h (l.extends_notify m)

/-! ### The steps -/

lemma Inv.extend (h : Inv s) {notifying : List Mutation} (hl : s.toLedger.Extends l')
    (hi : LedgerInv l') (hn : l'.notified = s.notified)
    (hnt : ∀ m ∈ notifying, ∃ n, (m, n) ∈ l'.counted)
    (hs : ∀ f fl obs seen, s.flights.lookup f = some fl →
      fl.phase = .compiling obs seen → ∀ r ∈ seen, Saw s.toLedger r → Saw l' r) :
    Inv { s with toLedger := l', notifying := notifying } where
  ledger := hi
  notifying := hnt
  slot x hx := hn ▸ (h.slot x hx).extend hl
  flights f fl hf := (h.flights f fl hf).extend hl hn fun obs seen hp =>
    hs f fl obs seen hf hp
  calls i c hc := (h.calls i c hc).extend hl
  replies i r hr := (h.replies i r hr).extend hl
  holds k x hx := (h.holds k x hx).extend hl

lemma Inv.count (h : Inv s) (hroom : s.core.Room) {m} (hm : m ∈ s.uncounted)
    (hok : All s.flights fun fl => fl.sees m = true) :
    Inv { s with toLedger := s.count m, notifying := m :: s.notifying } := by
  have hlt : s.version < s.version + 1 := hroom.version_lt
  refine h.extend (h.ledger.extends_count hlt hm) (h.ledger.count hlt hm) rfl (fun m' hm' => ?_) ?_
  · rcases mem_cons.1 hm' with rfl | hold
    · exact ⟨_, mem_cons_self⟩
    · obtain ⟨n, hn⟩ := h.notifying m' hold
      exact ⟨n, mem_cons_of_mem _ hn⟩
  · intro f fl obs seen hf hp r hr hs
    obtain ⟨attempt, phase⟩ := fl
    obtain rfl : phase = .compiling obs seen := hp
    have hss := List.all_eq_true.1 (hok f _ hf) r hr
    refine ⟨hs.1, fun m' n hmn => ?_⟩
    rcases mem_cons.1 hmn with heq | hold
    · cases heq
      exact of_decide_eq_true hss
    · exact hs.2 m' n hold

lemma Inv.notify (h : Inv s) (hroom : s.core.Room) {m} (hm : m ∈ s.notifying)
    (hok : All s.flights fun fl => ∀ x ∈ last fl, ∀ q ∈ s.counted, q.1 = m → q.2 ≤ x.version) :
    Inv { s.withCore s.core.invalidate with
      toLedger := s.notify m
      notifying := s.notifying.erase m } where
  ledger := h.ledger.notify (h.notifying m hm)
  notifying m' hm' := h.notifying m' (mem_of_mem_erase hm')
  slot _ hx := by cases hx
  flights f fl hf := (h.flights f fl hf).notify hroom.epoch_lt (hok f fl hf)
  calls i c hc := (h.calls i c hc).extend (s.extends_notify m)
  replies i r hr := (h.replies i r hr).extend (s.extends_notify m)
  holds k x hx := (h.holds k x hx).extend (s.extends_notify m)

lemma Inv.restart (h : Inv s) :
    Inv { s with
      toLedger := s.toLedger.restart
      notifying := []
      epoch := 0
      slot := none
      flights := ∅
      calls := ∅ } where
  ledger := h.ledger.restart
  notifying := by simp
  slot := by simp
  flights := by simp
  calls := by simp
  replies i r hr := (h.replies i r hr).restart
  holds k x hx := (h.holds k x hx).restart

lemma Inv.setCall (h : Inv s) (hc : c.Inv s.toLedger) : Inv (s.setCall i c) :=
  { h with calls := forall_lookup_insert h.calls hc }

lemma Inv.setFlight (h : Inv s) (hfl : FlightInv s.toLedger s.epoch fl) : Inv (s.setFlight f fl) :=
  { h with flights := forall_lookup_insert h.flights hfl }

lemma Inv.weaken (h : Inv s) (hroom : s.core.Room) {core} (hw : s.core.Weakens core) :
    Inv (s.withCore core) := by
  have hv : s.version ≤ core.version := hw.version_le hroom
  have hx : Inv { s with version := core.version } :=
    h.extend (s.extends_withVersion hv) (h.ledger.withVersion hv) rfl h.notifying
      fun _ _ _ _ _ _ _ _ hs => hs
  refine { hx with slot := fun x hs => ?_, flights := fun f fl hf => ?_ }
  · rcases hw.slot with hn | ⟨hs', -⟩
    · cases hn.symm.trans hs
    · exact hx.slot x (hs'.symm.trans hs)
  · change FlightInv _ core.epoch fl
    rcases hw.epoch with he | he <;> rw [he]
    · exact hx.flights f fl hf
    · exact (hx.flights f fl hf).later hroom.epoch_lt

lemma Call.Inv.setPhase (h : c.Inv l) {phase}
    (hp : ∀ y asOf, phase = .got y asOf → Covers l asOf y) :
    Call.Inv l { c with phase } := ⟨h.held, hp⟩

lemma Inv.get (h : Inv s) (hroom : s.core.Room) (hi : s.calls.lookup i = some c)
    (expired : Snap → Bool) (p : GetPhase) :
    Inv ((s.withCore (s.core.getStep expired p).1).afterGet i c (s.core.getStep expired p).2) := by
  obtain ⟨hw, hh⟩ := s.core.getStep_spec expired p
  have hinv := h.weaken hroom hw
  have hc := hinv.calls i c hi
  cases hr : (s.core.getStep expired p).2 with
  | again | miss => exact hinv.setCall (hc.setPhase (by simp))
  | hit x =>
    refine hinv.setCall (hc.setPhase fun y asOf hq => ?_)
    cases hq
    obtain ⟨heq, hs⟩ := hh x hr
    exact hinv.slot x ((congrArg Core.slot heq).trans hs)

lemma Inv.covers_compiled (h : Inv s) {seen} (hs : ∀ r ∈ seen, Saw s.toLedger r) :
    Covers s.toLedger s.notified ⟨⟨seen, s.version⟩, s.process⟩ where
  faithful :=
    { process := Nat.le_refl _
      version := fun _ => UInt64.le_rfl
      base := fun _ m hm r hr => (hs r hr).1 m hm
      counted := fun _ m n hmn _ r hr => (hs r hr).2 m n hmn }
  current := rfl
  notified _ hm := hm
  counts m _ n hmn := (h.ledger.counted m n hmn).2

lemma Inv.fly (h : Inv s) (hroom : s.core.Room) {m}
    (hm : ∀ x, m = .versionRead x → x = fun seen version _ => ⟨⟨seen, version⟩, s.process⟩)
    (hs : s.fly p f m = some s') : Inv s' := by
  obtain ⟨fl, hf, hr⟩ := bind_eq_some_iff.1 hs
  obtain ⟨⟨core, fl'⟩, hn, rfl⟩ := map_eq_some_iff.1 hr
  have hfl := h.flights f fl hf
  unfold FlightInv at hfl
  revert hn
  fun_cases Flight.next (p.compileFn s.notified) s.core s.committed fl m <;> rintro ⟨⟩
  · exact h.setFlight ⟨UInt64.le_rfl, by simp⟩
  · next hph _ =>
    rw [hph] at hfl
    refine h.setFlight ⟨hfl.1, fun r hr => ?_⟩
    rcases mem_append.1 hr with hold | hn
    · exact hfl.2 r hold
    · obtain rfl := mem_singleton.1 hn
      exact ⟨h.ledger.base, fun m n hmn => (h.ledger.counted m n hmn).1⟩
  · exact h.setFlight trivial
  · next hph _ =>
    rw [hph] at hfl
    obtain rfl := hm _ rfl
    exact h.setFlight ⟨hfl.1, fun _ => h.covers_compiled hfl.2⟩
  · next x hph =>
    rw [hph] at hfl
    have hx := hfl.2 (.inl rfl)
    rcases s.core.setLocked_cases (p.compileFn s.notified).version x with hc | hc <;> rw [hc]
    · exact h.setFlight hx
    · have hst : Inv { s with slot := some x } :=
        { h with slot := fun y hy => by cases hy; exact hx }
      exact hst.setFlight hx
  · next hph _ =>
    rw [hph] at hfl
    exact h.setFlight fun hl => hfl.2 (.inr hl)
  · next expired last q hph =>
    obtain ⟨hw, hh⟩ := s.core.getStep_spec expired q
    have hi := h.weaken hroom hw
    have hfl' : FlightInv _ _ fl := hi.flights f fl hf
    unfold FlightInv at hfl'
    rw [hph] at hfl'
    cases hr : (s.core.getStep expired q).2 with
    | again q' => exact hi.setFlight hfl'
    | hit x =>
      obtain ⟨heq, hs⟩ := hh x hr
      exact hi.setFlight (hi.slot x ((congrArg Core.slot heq).trans hs))
    | miss =>
      dsimp only [Flight.afterReget]
      split
      · next hl => exact hi.setFlight (hfl' hl)
      · exact hi.setFlight trivial

lemma Inv.release (h : Inv s) {attempt}
    (hf : s.flights.lookup f = some ⟨attempt, .finished (some (x, asOf))⟩) :
    Inv { s with
      flights := s.flights.erase f
      calls := mapValues s.calls fun _ => Call.release f x asOf } := by
  have hx : Covers s.toLedger asOf x := h.flights f _ hf
  refine { h with flights := fun f' fl hfl => ?_, calls := fun i c hc => ?_ }
  · exact h.flights f' fl (lookup_erase_eq_some.1 hfl).1
  · rw [lookup_mapValues] at hc
    obtain ⟨old, hold, rfl⟩ := map_eq_some_iff.1 hc
    unfold Call.release
    split
    · refine (h.calls i old hold).setPhase fun y asOf' hg => ?_
      cases hg
      exact hx
    · exact h.calls i old hold

lemma Inv.next (p : Plane) (s : State) (a : Action) (s' : State) (h : Inv s)
    (hok : Settled s a ∧ s.core.Room) (hs : step p s a = some s') : Inv s' := by
  cases a <;> dsimp only [step] at hs
  case commit m =>
    obtain ⟨hm, hs⟩ := ite_none_left_eq_some.1 hs
    cases hs
    exact h.extend (s.extends_commit m) (h.ledger.commit hm) rfl h.notifying
      fun _ _ _ _ _ _ _ _ hsaw => hsaw
  case incr m =>
    obtain ⟨hm, rfl⟩ := ite_some_none_eq_some.1 hs
    exact h.count hok.2 hm hok.1
  case inval m =>
    obtain ⟨hm, rfl⟩ := ite_some_none_eq_some.1 hs
    exact h.notify hok.2 hm hok.1
  case restart =>
    cases hs
    exact h.restart
  case poll i cl =>
    obtain ⟨-, rfl⟩ := ite_some_none_eq_some.1 hs
    exact h.setCall ⟨fun x hx => h.holds cl x hx, by simp⟩
  case get i expired =>
    split at hs <;> cases hs
    next hi => exact h.get hok.2 hi _ _
  case enter i f =>
    split at hs
    · next cl held hi =>
      have hcl : Inv (s.setCall i ⟨cl, held, .waiting f⟩) :=
        h.setCall ((h.calls i _ hi).setPhase (by simp))
      split at hs
      · obtain ⟨-, hs⟩ := ite_none_left_eq_some.1 hs
        cases hs
        exact hcl.setFlight trivial
      · obtain ⟨-, rfl⟩ := ite_some_none_eq_some.1 hs
        exact hcl
    · cases hs
  case versionRead f =>
    refine h.fly hok.2 (fun x hx => ?_) hs
    cases hx
    rfl
  case release f =>
    split at hs
    · next hf =>
      cases hs
      exact h.release hf
    · cases hs
      exact { h with
        flights := forall_lookup_erase h.flights
        calls := fun i c hc => h.calls i c (lookup_retain_eq_some.1 hc).1 }
    · cases hs
  case answer i =>
    split at hs
    · next hi =>
      have he : Inv { s with calls := s.calls.erase i } :=
        { h with calls := forall_lookup_erase h.calls }
      split at hs
      · cases hs
        exact he
      · cases hs
        have hx := ((h.calls i _ hi).got _ _ rfl).faithful
        exact { he with replies := forall_lookup_insert h.replies hx }
    · cases hs
  case deliver i =>
    split at hs <;> cases hs
    next hi =>
      have hx := h.replies i _ hi
      exact { h with
        replies := forall_lookup_erase h.replies
        holds := forall_lookup_insert h.holds hx }
  case forget cl =>
    cases hs
    exact { h with holds := forall_lookup_erase h.holds }
  all_goals exact h.fly hok.2 (by simp) hs

lemma Inv.start : Inv start where
  ledger := ⟨nofun, nofun, nofun, nofun⟩
  notifying _ h := by cases h
  slot _ h := by cases h
  flights _ _ h := by cases h
  calls _ _ h := by cases h
  replies _ _ h := by cases h
  holds _ _ h := by cases h

lemma count_step (hs : step p s a = some s') : s'.core.count ≤ s.core.count + 1 := by
  cases a with
  | capture | read | fail | versionRead | store | reget =>
    obtain ⟨fl, hf, hr⟩ := bind_eq_some_iff.1 hs
    obtain ⟨⟨core, fl'⟩, hn, rfl⟩ := map_eq_some_iff.1 hr
    exact Flight.count_next hn
  | incr m =>
    obtain ⟨-, rfl⟩ := ite_some_none_eq_some.1 hs
    exact s.core.weakens_bump.count_le
  | inval m =>
    obtain ⟨-, rfl⟩ := ite_some_none_eq_some.1 hs
    exact s.core.weakens_invalidate.count_le
  | restart =>
    cases hs
    exact Nat.zero_le _
  | get i expired =>
    dsimp only [step] at hs
    split at hs <;> cases hs
    next phase _ =>
    have hct := (s.core.getStep_spec (fun _ => expired && p.expires) phase).1.count_le
    rcases (s.core.getStep (fun _ => expired && p.expires) phase).2 with p' | x | _ <;> exact hct
  | commit | poll | enter | release | answer | deliver | forget =>
    have hsame : s'.core = s.core := by
      grind [step, State.core, State.setCall, State.setFlight, Ledger.commit]
    rw [hsame]
    exact Nat.le_succ _

def change (m : Mutation) : List Action := [.commit m, .incr m, .inval m]

def compile (p : Plane) (f : FlightId) : List Action :=
  [Action.capture f] ++ List.replicate p.numReads (.read f) ++
    [Action.versionRead f, .store f, .release f]

/-- A poll of client 0 that finds nothing cached, up to the answer. -/
def polled (p : Plane) (i : CallId) : List Action :=
  [Action.poll i 0, .get i false, .enter i i] ++ compile p i

/-- After a restart the counter reaches the version that the client holds. -/
def reached (p : Plane) : List Action :=
  change 0 ++ polled p 0 ++ [Action.answer 0, .deliver 0, .restart] ++ change 1 ++ polled p 1

/-- A change is counted after the queries of a compile and before its read of the version. -/
def countedInCompile : List Action :=
  [Action.poll 0 0, .get 0 false, .enter 0 0, .capture 0, .read 0, .read 0, .commit 0, .incr 0,
    .versionRead 0, .store 0, .release 0, .answer 0, .deliver 0, .inval 0] ++ polled .transport 1

end Zecurity.SnapshotPlanes
