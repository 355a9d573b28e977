import Zecurity.SnapshotCache

/-!
Whether a snapshot's version says what is in it.

An increment that falls between a compile's first read and its version read gives the snapshot a
version that counts a mutation its reads did not see. The `Invalidate` that follows the increment
makes the compile lose the epoch comparison, unless it comes after the comparison, or the attempt
is the last one.
-/

namespace Zecurity.SnapshotCache

open EpochCache List Option

/-- The snapshot reflects every mutation that its version counts. -/
def State.Sound (s : State) (x : Snap) : Prop := ∀ p ∈ s.counted, p.2 ≤ x.version → x.Reflects p.1

def VersionAgrees (s : State) : Prop := ∀ id x lost, s.Returned id x lost → s.Sound x

/-- Where the gate takes a connector that holds `x` as current for `y`, it withholds nothing
that `y` reflects and `x` does not. -/
def GateWithholdsNothing (s : State) : Prop :=
  ∀ id id' x y lost lost', s.Returned id x lost → s.Returned id' y lost' →
    gateSkips x.version y.version = true → ∀ m, y.Reflects m → x.Reflects m

/-- The condition on a step. Where a comparison is won, the reads of the compile have seen every
mutation that its version counts and whose `Invalidate` is still to come; and where a last attempt
reads the version, its reads have seen every mutation that has been counted. -/
def StoresSettled (s : State) : Action → Prop
  | .store => ∀ x ∈ s.compiled, s.core.epoch = x.observed → ∀ p ∈ s.counted, p.1 ∈ s.notifying →
      p.2 ≤ x.version → x.Reflects p.1
  | .versionRead _ => ∀ fl ∈ s.flight, fl.lastAttempt = true → ∀ p ∈ s.counted, fl.sees p.1 = true
  | _ => True

/-- The condition for the gate: where a version is read that an earlier snapshot has, the mutations
that the reads have seen have been counted. -/
def ReadsCounted (s : State) : Action → Prop
  | .versionRead _ => ∀ y ∈ s.hist, y.version = s.core.version → ∀ fl ∈ s.flight,
      ∀ m ∈ s.committed, fl.sees m = true → m ∈ s.counted.map Prod.fst
  | _ => True

/-! ### What a version counts -/

/-- The mutation has still to call `Invalidate`, or the epoch is past the observed one. -/
def State.Excuses (s : State) (observed : UInt64) (m : Mutation) : Prop :=
  m ∈ s.notifying ∨ observed < s.core.epoch

def FlightAgrees (s : State) (fl : Flight Snap Outcome) : Prop :=
  match fl.phase with
  | .compiling observed seen => ∀ p ∈ s.counted, s.Excuses observed p.1 ∨ ∀ r ∈ seen, p.1 ∈ r
  | .compiled observed x => (fl.lastAttempt = true → s.Sound x) ∧
      ∀ p ∈ s.counted, p.2 ≤ x.version → s.Excuses observed p.1 ∨ x.Reflects p.1
  | .regetting last _ => fl.lastAttempt = true → s.Sound last
  | .finished (.snapshot x _) => s.Sound x
  | .loop | .finished .failed => True

structure Agrees (s : State) : Prop where
  counted : ∀ p ∈ s.counted, p.1 ∈ s.committed ∧ p.2 ≤ s.core.version
  flight : ∀ fl, s.flight = some fl → FlightAgrees s fl
  slot : ∀ x, s.core.slot = some x → s.Sound x
  returned : VersionAgrees s

variable {s s' : State} {a : Action} {m : Move Snap} {id : CallId} {k : Caller} {x : Snap}
  {core : Core Snap} {committed notifying : List Mutation} {counted : List (Mutation × UInt64)}

lemma agrees_init : Agrees init := ⟨nofun, nofun, nofun, nofun⟩

lemma State.Sound.grow (h : s.Sound x) (hx : x.version ≤ s.core.version)
    (hc : ∀ p ∈ counted, p ∈ s.counted ∨ s.core.version < p.2) :
    State.Sound { s with core, committed, counted, notifying } x := by
  intro p hp hle
  rcases hc p hp with hold | hlt
  · exact h p hold hle
  · exact absurd (UInt64.le_trans hle hx) (UInt64.not_le.2 hlt)

section

variable (h : Agrees s)
include h

/-- A step of a mutation or of a `Get`: what is new is counted with a higher version and has still
to call `Invalidate`, and an `Invalidate` moves the epoch. -/
lemma Agrees.grow (hi : Inv s) (hcm : s.committed ⊆ committed)
    (hv : s.core.version ≤ core.version)
    (hct : ∀ p ∈ counted, p ∈ s.counted ∨ s.core.version < p.2 ∧ p.2 ≤ core.version ∧
      p.1 ∈ committed ∧ p.1 ∈ notifying)
    (hex : core.epoch = s.core.epoch ∧ s.notifying ⊆ notifying ∨ s.core.epoch < core.epoch)
    (hsl : core.slot = none ∨ core.slot = s.core.slot) :
    Agrees { s with core, committed, counted, notifying } := by
  have hnew : ∀ p ∈ counted, p ∈ s.counted ∨ s.core.version < p.2 := fun p hp =>
    (hct p hp).imp_right And.left
  have hsd : ∀ {y}, y ∈ s.hist → s.Sound y →
      State.Sound { s with core, committed, counted, notifying } y := fun hy hs =>
    hs.grow (hi.below _ hy) hnew
  have hexc : ∀ {observed m}, observed ≤ s.core.epoch → s.Excuses observed m →
      State.Excuses { s with core, committed, counted, notifying } observed m := by
    intro observed m ho hm
    rcases hex with ⟨he, hn⟩ | hlt
    · exact hm.imp (fun hm => hn hm) fun hm => by rw [he]; exact hm
    · exact .inr (UInt64.lt_of_le_of_lt ho hlt)
  refine ⟨fun p hp => ?_, fun fl hf => ?_, fun y hy => ?_, fun id y lost hy => ?_⟩
  · rcases hct p hp with hold | ⟨-, hle, hm, -⟩
    · exact ⟨hcm (h.counted p hold).1, UInt64.le_trans (h.counted p hold).2 hv⟩
    · exact ⟨hm, hle⟩
  · have hok := hi.phase fl hf
    have hag := h.flight fl hf
    obtain ⟨n, phase⟩ := fl
    cases phase with
    | loop => trivial
    | compiling observed seen =>
      intro p hp
      rcases hct p hp with hold | ⟨-, -, -, hn⟩
      · exact (hag p hold).imp_left (hexc hok.1)
      · exact .inl (.inl hn)
    | compiled observed y =>
      obtain ⟨hm, -, -, ho, -⟩ := hok
      refine ⟨fun hl => hsd hm (hag.1 hl), fun p hp hle => ?_⟩
      rcases hnew p hp with hold | hlt
      · exact (hag.2 p hold hle).imp_left (hexc ho)
      · exact absurd (UInt64.le_trans hle (hi.below y hm)) (UInt64.not_le.2 hlt)
    | regetting last p => exact fun hl => hsd hok.1 (hag hl)
    | finished o =>
      cases o with
      | snapshot y lost => exact hsd hok.1 hag
      | failed => trivial
  · rcases hsl with hn | hs
    · simp [hn] at hy
    · simp only [hs] at hy
      exact hsd (hi.slot y hy).1 (h.slot y hy)
  · obtain ⟨begun, floor, hk⟩ := hy
    exact hsd (hi.returned _ _ _ _ _ hk).1 (h.returned id y lost ⟨begun, floor, hk⟩)

lemma Agrees.weaken (hi : Inv s) (hroom : s.core.Room) (hw : s.core.Weakens core) :
    Agrees { s with core } := by
  refine h.grow hi (List.Subset.refl _) (hw.version_le hroom) (fun _ hp => .inl hp) ?_
    (hw.slot.imp_right And.left)
  rcases hw.epoch with he | he
  · exact .inl ⟨he, List.Subset.refl _⟩
  · exact .inr (he ▸ hroom.epoch_lt)

lemma Agrees.setFlight {fl} (hist : List Snap) (hf : FlightAgrees s fl) :
    Agrees { s with flight := some fl, hist } :=
  ⟨h.counted, fun _ hfl => Option.some.inj hfl ▸ hf, h.slot, h.returned⟩

lemma Agrees.setCall (top : ℕ) (hk : ∀ x lost, k.phase = .returned (.snapshot x lost) → s.Sound x) :
    Agrees (State.setCall { s with top } id k) := by
  refine ⟨h.counted, h.flight, h.slot, fun i x lost hx => ?_⟩
  obtain ⟨begun, floor, hx⟩ := hx
  rcases Runs.update_apply_eq_iff.1 hx with ⟨-, ⟨⟩⟩ | ⟨-, hx⟩
  · exact hk x lost rfl
  · exact h.returned i x lost ⟨begun, floor, hx⟩

lemma Agrees.fly (hi : Inv s) (hroom : s.core.Room) (hm : ∀ x, m ≠ .versionRead x)
    (hok : m = .store → StoresSettled s .store) (hs : s.fly m = some s') : Agrees s' := by
  obtain ⟨fl, c, fl', hf, hn, rfl⟩ := fly_eq_some.1 hs
  have hp := hi.phase fl hf
  have hag := h.flight fl hf
  unfold FlightAgrees at hag
  revert hn
  fun_cases Flight.next compileFn s.core s.committed fl m <;> rintro ⟨⟩
  · exact h.setFlight s.hist fun p _ => .inr (by simp)
  · next hph _ =>
    rw [hph] at hag
    refine h.setFlight s.hist fun p hpc => (hag p hpc).imp_right fun hr => ?_
    exact forall_mem_append.2 ⟨hr, forall_mem_singleton.2 (h.counted p hpc).1⟩
  · exact h.setFlight s.hist trivial
  · exact absurd rfl (hm _)
  · next x hph =>
    rw [hph] at hag hp
    obtain ⟨hmem, hb, ho, -⟩ := hp
    -- a mutation that the compile missed has called `Invalidate`, and would have moved the epoch
    have hsd : s.Sound x := fun p hpc hle => by
      rcases hag.2 p hpc hle with (hn | hlt) | hr
      · exact hok rfl x (by simp [State.compiled, hf, hph]) ho.symm p hpc hn hle
      · exact absurd hlt (UInt64.lt_irrefl _)
      · exact hr
    rw [hi.setLocked_eq hmem hb]
    exact ⟨h.counted, fun _ hfl => Option.some.inj hfl ▸ hsd,
      fun _ hx => Option.some.inj hx ▸ hsd, h.returned⟩
  · next x hph he =>
    rw [hph] at hag
    exact h.setFlight s.hist hag.1
  · next expired last p hph =>
    rw [hph] at hag hp
    obtain ⟨hw, hh⟩ := s.core.getStep_spec expired p
    have hg := h.weaken hi hroom hw
    refine hg.setFlight s.hist ?_
    rcases hr : (s.core.getStep expired p).2 with p' | x | _
    · exact hag
    · exact absurd (hp.2.2.symm.trans (hh x hr).2) (by simp)
    · simp only [Flight.afterReget]
      split
      · next hl => exact hag hl
      · trivial

end

lemma agrees_step (h : Agrees s) (hi : Inv s) (hroom : s.core.Room) (hok : StoresSettled s a)
    (hs : step s a = some s') : Agrees s' := by
  have hsub := List.Subset.refl s.committed
  have hnt := List.Subset.refl s.notifying
  cases transition_of_step hs with
  | commit =>
    exact h.grow hi (subset_cons_self _ _) UInt64.le_rfl (fun _ hp => .inl hp)
      (.inl ⟨rfl, hnt⟩) (.inr rfl)
  | incr hm =>
    refine h.grow hi hsub (UInt64.le_of_lt hroom.version_lt) (fun p hp => ?_)
      (.inl ⟨rfl, subset_cons_self _ _⟩) (.inr rfl)
    rcases mem_cons.1 hp with rfl | hp
    · exact .inr ⟨hroom.version_lt, UInt64.le_rfl, hm, mem_cons_self⟩
    · exact .inl hp
  | inval =>
    exact h.grow hi hsub UInt64.le_rfl (fun _ hp => .inl hp) (.inr hroom.epoch_lt) (.inl rfl)
  | begin => exact h.setCall s.top (by simp)
  | @get id now begun floor p hk =>
    obtain ⟨hw, hh⟩ := s.core.getStep_spec (expiredAt now) p
    have hg := h.weaken hi hroom hw
    rcases hr : (s.core.getStep (expiredAt now) p).2 with p' | x | _
    · exact hg.setCall s.top (by simp)
    · refine hg.setCall _ fun y lost hy => ?_
      cases hy
      exact h.slot x (hh x hr).2
    · exact hg.setCall s.top (by simp)
  | @enter id begun floor hk =>
    have hc : Agrees (s.setCall id ⟨begun, floor, .waiting⟩) := h.setCall s.top (by simp)
    rcases hf : s.flight with _ | f
    · exact hc.setFlight s.hist trivial
    · exact hc.setFlight s.hist (h.flight f hf)
  | fly hm ha hs => exact h.fly hi hroom hm (fun hst => ha hst ▸ hok) hs
  | versionRead hf =>
    refine h.setFlight _ ⟨fun hl p hp _ => ?_, fun p hp _ => h.flight _ hf p hp⟩
    simpa [Flight.sees, Snap.Reflects] using hok _ hf hl p hp
  | release hf =>
    refine ⟨h.counted, by simp, h.slot, fun i x lost hx => ?_⟩
    obtain ⟨begun, floor, hx⟩ := hx
    obtain ⟨k0, hk0, hr⟩ := map_eq_some_iff.1 hx
    unfold Caller.release at hr
    split at hr
    · cases hr
      exact h.flight _ hf
    · exact h.returned i x lost ⟨begun, floor, hr ▸ hk0⟩

/-! ### What the gate relies on -/

/-- Later reads see more, and where two snapshots have one version, the later one reflects counted
mutations only. -/
structure Credits (s : State) : Prop where
  reads : ∀ fl ∈ s.flight, ∀ observed seen, fl.phase = .compiling observed seen →
    (∀ r ∈ seen, r ⊆ s.committed) ∧
      ∀ y ∈ s.hist, ∀ m, y.Reflects m → ∀ r ∈ seen, m ∈ r
  committed : ∀ y ∈ s.hist, ∀ m, y.Reflects m → m ∈ s.committed
  later : s.hist.Pairwise fun x y => (∀ m, x.Reflects m → y.Reflects m) ∧
    (x.version = y.version → ∀ m, y.Reflects m → ∃ v, (m, v) ∈ s.counted ∧ v ≤ y.version)

lemma credits_init : Credits init := ⟨nofun, nofun, Pairwise.nil⟩

lemma Credits.grow (h : Credits s) (hh : s'.hist = s.hist) (hcm : s.committed ⊆ s'.committed)
    (hct : s.counted ⊆ s'.counted)
    (hfl : ∀ fl ∈ s'.flight, ∀ observed seen, fl.phase = .compiling observed seen →
      seen = [] ∨ ∃ fl0 ∈ s.flight, fl0.phase = .compiling observed seen) : Credits s' := by
  refine ⟨fun fl hf observed seen hp => ?_, ?_, ?_⟩
  · rcases hfl fl hf observed seen hp with rfl | ⟨fl0, hf0, hp0⟩
    · simp
    · obtain ⟨hr, hy⟩ := h.reads fl0 hf0 observed seen hp0
      exact ⟨fun r hrm => List.Subset.trans (hr r hrm) hcm, hh ▸ hy⟩
  · exact fun y hy m hm => hcm (h.committed y (hh ▸ hy) m hm)
  · rw [hh]
    refine h.later.imp fun ⟨hl, hc⟩ => ⟨hl, fun hv m hm => ?_⟩
    obtain ⟨v, hmv, hle⟩ := hc hv m hm
    exact ⟨v, hct hmv, hle⟩

lemma Credits.fly (h : Credits s) (hm : ∀ x, m ≠ .versionRead x) (hs : s.fly m = some s') :
    Credits s' := by
  obtain ⟨fl, c, fl', hf, hn, rfl⟩ := fly_eq_some.1 hs
  have hsub := List.Subset.refl s.committed
  have hct := List.Subset.refl s.counted
  revert hn
  fun_cases Flight.next compileFn s.core s.committed fl m <;> rintro ⟨⟩
  · refine h.grow rfl hsub hct fun _ hfl observed seen hp => .inl ?_
    cases hfl
    cases hp
    rfl
  · next observed seen hph _ =>
    obtain ⟨hr, hy⟩ := h.reads fl hf observed seen hph
    refine ⟨fun _ hfl _ _ hp => ?_, h.committed, h.later⟩
    cases hfl
    cases hp
    refine ⟨forall_mem_append.2 ⟨hr, forall_mem_singleton.2 hsub⟩, fun y hym m hm => ?_⟩
    exact forall_mem_append.2 ⟨hy y hym m hm, forall_mem_singleton.2 (h.committed y hym m hm)⟩
  · exact h.grow rfl hsub hct (by simp)
  · exact absurd rfl (hm _)
  · exact h.grow rfl hsub hct (by simp)
  · exact h.grow rfl hsub hct (by simp)
  · refine h.grow rfl hsub hct ?_
    unfold Flight.afterReget
    split
    · simp
    · simp
    · split <;> simp

lemma credits_step (h : Credits s) (ha : Agrees s) (hok : ReadsCounted s a)
    (hs : step s a = some s') : Credits s' := by
  have hsub := List.Subset.refl s.committed
  have hct := List.Subset.refl s.counted
  have hsame : ∀ fl ∈ s.flight, ∀ observed seen, fl.phase = .compiling observed seen →
      seen = [] ∨ ∃ fl0 ∈ s.flight, fl0.phase = .compiling observed seen :=
    fun fl hf _ _ hp => .inr ⟨fl, hf, hp⟩
  cases transition_of_step hs with
  | commit => exact h.grow rfl (subset_cons_self _ _) hct hsame
  | incr => exact h.grow rfl hsub (subset_cons_self _ _) hsame
  | inval | begin => exact h.grow rfl hsub hct hsame
  | @get id now begun floor p hk =>
    rcases (s.core.getStep (expiredAt now) p).2 with p' | x | _ <;>
      exact h.grow rfl hsub hct hsame
  | enter =>
    refine h.grow rfl hsub hct fun fl hfl observed seen hp => ?_
    rcases hf : s.flight with _ | f
    · obtain rfl : ⟨0, .loop⟩ = fl := by simpa [hf] using hfl
      cases hp
    · exact .inr ⟨fl, by simpa [hf] using hfl, hp⟩
  | fly hm _ hs => exact h.fly hm hs
  | @versionRead n observed seen validUntil hf hlen =>
    obtain ⟨hr, hy⟩ := h.reads _ hf observed seen rfl
    obtain ⟨r, hrm⟩ : ∃ r, r ∈ seen := exists_mem_of_length_pos (by rw [hlen]; decide)
    refine ⟨by simp, forall_mem_append.2 ⟨h.committed, forall_mem_singleton.2 ?_⟩,
      pairwise_append.2 ⟨h.later, pairwise_singleton _ _, fun y hym z hz => ?_⟩⟩
    · exact fun m hm => hr r hrm (hm r hrm)
    · obtain rfl := mem_singleton.1 hz
      refine ⟨fun m hm => hy y hym m hm, fun hv m hm => ?_⟩
      have hsn : (⟨n, .compiling observed seen⟩ : Flight Snap Outcome).sees m = true :=
        List.all_eq_true.2 fun r hr => decide_eq_true (hm r hr)
      obtain ⟨⟨m', v⟩, hp, rfl⟩ := mem_map.1 (hok y hym hv _ hf m (hr r hrm (hm r hrm)) hsn)
      exact ⟨v, hp, (ha.counted _ hp).2⟩
  | release => exact h.grow rfl hsub hct (by simp)

lemma gateWithholdsNothing (hi : Inv s) (ha : Agrees s) (hc : Credits s) :
    GateWithholdsNothing s := by
  intro id id' x y lost lost' hx hy hg m hm
  have hsd := ha.returned id x lost hx
  obtain ⟨begun, floor, hkx⟩ := hx
  obtain ⟨begun', floor', hky⟩ := hy
  simp only [gateSkips, Bool.and_eq_true, bne_iff_ne, beq_iff_eq] at hg
  obtain ⟨hbx, hgx⟩ := List.getElem?_eq_some_iff.1 (hi.born x (hi.returned _ _ _ _ _ hkx).1)
  obtain ⟨hby, hgy⟩ := List.getElem?_eq_some_iff.1 (hi.born y (hi.returned _ _ _ _ _ hky).1)
  have hlater := pairwise_iff_getElem.1 hc.later
  rcases lt_trichotomy x.born y.born with hlt | heq | hlt
  · have hxy := (hlater x.born y.born hbx hby hlt).2
    rw [hgx, hgy] at hxy
    obtain ⟨v, hv, hle⟩ := hxy hg.2 m hm
    exact hsd (m, v) hv (hg.2 ▸ hle)
  · have : x = y := by rw [← hgx, ← hgy]; simp only [heq]
    exact this ▸ hm
  · have hyx := (hlater y.born x.born hby hbx hlt).1
    rw [hgx, hgy] at hyx
    exact hyx m hm

/-- **Version agrees with content**, in every run of fewer than `2 ^ 64` events whose stores are
settled; and the gate withholds nothing if besides a version that is there already is read only
with counted mutations. -/
theorem versionAgrees_of_storesSettled (acts : List Action) (s : State)
    (hlen : acts.length < UInt64.size) (hmeets : Runs.Meets step StoresSettled init acts)
    (hexec : Runs.exec step init acts = some s) :
    VersionAgrees s ∧ (Runs.Meets step ReadsCounted init acts → GateWithholdsNothing s) := by
  have hm := hmeets.and (meets_room hlen)
  have ha : Inv s ∧ Agrees s := Runs.exec_inv_of_meets (I := fun s => Inv s ∧ Agrees s)
      (fun _ _ _ h hok hs => ⟨inv_step h.1 hok.2 hs, agrees_step h.2 h.1 hok.2 hok.1 hs⟩)
      ⟨inv_init, agrees_init⟩ hm hexec
  refine ⟨ha.2.returned, fun hrc => ?_⟩
  have hc : (Inv s ∧ Agrees s) ∧ Credits s :=
    Runs.exec_inv_of_meets (I := fun s => (Inv s ∧ Agrees s) ∧ Credits s)
      (fun _ _ _ h hok hs => ⟨⟨inv_step h.1.1 hok.1.2 hs,
        agrees_step h.1.2 h.1.1 hok.1.2 hok.1.1 hs⟩, credits_step h.2 h.1.2 hok.2 hs⟩)
      ⟨⟨inv_init, agrees_init⟩, credits_init⟩ (hm.and hrc) hexec
  exact gateWithholdsNothing ha.1 ha.2 hc.2

instance (s : State) : DecidablePred (StoresSettled s)
  | .store => inferInstanceAs (Decidable (∀ x ∈ s.compiled, _))
  | .versionRead _ => inferInstanceAs (Decidable (∀ fl ∈ s.flight, _))
  | .commit _ | .incr _ | .inval _ | .begin _ | .get _ _ | .enter _ | .capture | .read | .fail
  | .reget _ | .release => .isTrue trivial

instance (s : State) : DecidablePred (ReadsCounted s)
  | .versionRead _ => inferInstanceAs (Decidable (∀ y ∈ s.hist, _))
  | .commit _ | .incr _ | .inval _ | .begin _ | .get _ _ | .enter _ | .capture | .read | .fail
  | .store | .reget _ | .release => .isTrue trivial

/-- A mutation is counted and invalidated after the reads of a compile: the compile loses the
comparison, and a second attempt sees the mutation. -/
def countedInTime : List Action :=
  [Action.begin 0, .get 0 0, .enter 0, .capture] ++ List.replicate numReads Action.read ++
    [Action.commit 0, .incr 0, .versionRead 0, .inval 0, .store, .reget 0] ++ oneCompile ++
    [Action.release]

theorem versionAgrees_counted_in_time :
    ∃ s, Runs.exec step init countedInTime = some s ∧
      s.calls 0 =
        some ⟨0, 0, .returned (.snapshot ⟨⟨List.replicate 8 [0], 1⟩, 0, 1, 1⟩ false)⟩ ∧
      VersionAgrees s ∧ GateWithholdsNothing s := by
  obtain ⟨s, he, hc⟩ : ∃ s, Runs.exec step init countedInTime = some s ∧ s.calls 0 =
      some ⟨0, 0, .returned (.snapshot ⟨⟨List.replicate 8 [0], 1⟩, 0, 1, 1⟩ false)⟩ := by
    decide +kernel
  obtain ⟨hv, hg⟩ := versionAgrees_of_storesSettled countedInTime s (by decide)
    (by decide +kernel) he
  exact ⟨s, he, hc, hv, hg (by decide +kernel)⟩

/-- The reads of a compile are done when a mutation is committed and counted; the compile reads
the version 1, stores and returns; then comes the invalidation, and a second call compiles. -/
def countedInCompile : List Action :=
  [Action.begin 0, .get 0 0, .enter 0, .capture] ++ List.replicate numReads Action.read ++
    [Action.commit 0, .incr 0, .versionRead 0, .store, .release, .inval 0, .begin 1, .get 1 0,
      .enter 1] ++ oneCompile ++ [Action.release]

/-- Both snapshots have version 1, and only the second has the mutation: the gate withholds it
from a connector that holds the first. -/
theorem version_counts_unseen_mutation :
    ∃ s, Runs.exec step init countedInCompile = some s ∧
      s.calls 0 =
        some ⟨0, 0, .returned (.snapshot ⟨⟨List.replicate 8 [], 1⟩, 0, 0, 0⟩ false)⟩ ∧
      s.calls 1 =
        some ⟨1, 1, .returned (.snapshot ⟨⟨List.replicate 8 [0], 1⟩, 0, 1, 1⟩ false)⟩ ∧
      ¬ VersionAgrees s ∧ ¬ GateWithholdsNothing s := by
  obtain ⟨s, he, h0, h1, hc⟩ : ∃ s, Runs.exec step init countedInCompile = some s ∧
      s.calls 0 =
        some ⟨0, 0, .returned (.snapshot ⟨⟨List.replicate 8 [], 1⟩, 0, 0, 0⟩ false)⟩ ∧
      s.calls 1 =
        some ⟨1, 1, .returned (.snapshot ⟨⟨List.replicate 8 [0], 1⟩, 0, 1, 1⟩ false)⟩ ∧
      s.counted = [(0, 1)] := by
    decide +kernel
  refine ⟨s, he, h0, h1, fun h => ?_, fun h => ?_⟩
  · have hr := h 0 _ false ⟨0, 0, h0⟩ (0, 1) (by rw [hc]; decide) (by decide)
    revert hr
    decide
  · have hr := h 0 1 _ _ false false ⟨0, 0, h0⟩ ⟨1, 1, h1⟩ (by decide) 0 (by decide)
    revert hr
    decide

end Zecurity.SnapshotCache
