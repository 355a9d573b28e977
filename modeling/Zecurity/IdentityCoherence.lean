import Zecurity.Runs
import Zecurity.SavedIdentity

/-!
The identity that a client keeps is coherent, as long as no operation overlaps with one that
undoes it.

`Op.Inv` says what each operation in flight counts on; two operations of which one would take that
away `Clash`.
-/

namespace Zecurity.SavedIdentity

open FiniteMap Option Runs

/-! ### What is asked of the saved identity -/

/-- The certificate is for the device's id and its key, or both are absent. -/
def Device.Coherent (d : Device) : Prop :=
  d.certificate.map (fun c => (c.deviceId, c.key)) = d.privateKey.map fun key => (d.id, key)

def Device.Blank (d : Device) : Prop := d.certificate = none ∧ d.privateKey = none

instance (d : Device) : Decidable d.Coherent := inferInstanceAs (Decidable (_ = _))

def State.Idle (s : State) : Prop := s.Without fun _ => true

instance (s : State) : Decidable s.Idle := inferInstanceAs (Decidable (s.Without _))

/-- The device's credentials and the flag for the tunnel are gone: the flag in memory is up only if
it has been all along. -/
structure Erased (c : Identity) (stillUp : Bool) : Prop where
  file : ∀ st, c.load = some st → st.device.Blank ∧ st.tunnelWanted = false
  memory : ∀ d, c.memory.device = some d → d.Blank
  flag : c.memory.tunnelWanted = true → stillUp = true

structure Coherent (s : State) : Prop where
  saved : s.Idle → s.file ≠ none →
    ∃ st, s.load = some st ∧ st.device.Coherent ∧ s.login = some st.session.login
  erased : ∀ stillUp, s.wiped = some stillUp → Erased s.toIdentity stillUp

/-- An operation that must not overlap with a login. -/
def Op.barsLogin (o : Op) : Bool := o.isLogin || o.isRefresh || o.savesCert || o.isDirective

/-- An operation that would bring back what a directive takes away. -/
def Op.barsDirective (o : Op) : Bool := o.savesCert || o.wantsUp

/-- The file is loaded, and a login begins, only while no other operation is about to save; a login
overlaps with no login, refresh, directive or save of a renewed certificate; a renewed certificate
is accepted, and the choice to have the tunnel up recorded, only while the device is active and no
directive overlaps. -/
def Orderly (s : State) : Action → Prop
  | .login _ _ => s.Without Op.saving ∧ s.Without Op.barsLogin
  | .refresh _ _ => s.Without Op.isLogin
  | .renewed _ _ =>
    s.memory.deviceState = .active ∧ s.Without Op.isLogin ∧ s.Without Op.isDirective
  | .wanted _ up => up = true → s.memory.deviceState = .active ∧ s.Without Op.isDirective
  | .directive _ _ => s.Without Op.isLogin ∧ s.Without Op.barsDirective
  | .load _ => s.Without Op.saving
  | _ => True

instance (s : State) : ∀ a, Decidable (Orderly s a)
  | .login _ _ | .directive _ _ => inferInstanceAs (Decidable (_ ∧ _))
  | .refresh _ _ | .load _ => inferInstanceAs (Decidable (s.Without _))
  | .renewed _ _ => inferInstanceAs (Decidable (_ ∧ _ ∧ _))
  | .wanted _ _ => inferInstanceAs (Decidable (_ → _))
  | .rotated _ _ _ _ | .plan | .renew _ | .refused _ | .save _ _ | .ioError _ | .memory _ =>
    inferInstanceAs (Decidable True)

/-! ### The invariant -/

/-- Between the save and the update of memory of a login the file is ahead of memory. -/
def Op.landing : Op → Bool
  | running (.login _) .memory => true
  | _ => false

def Op.Bars (o p : Op) : Prop :=
  o.saving = true ∧ p.saving = true ∨ o.isLogin = true ∧ p.barsLogin = true ∨
    o.isDirective = true ∧ p.barsDirective = true

/-- Two operations that an orderly run keeps apart. -/
def Op.Clash (o p : Op) : Prop := o.Bars p ∨ p.Bars o

/-- The credentials in memory have been taken away. -/
structure Cleared (m : Memory) : Prop where
  device : ∀ d, m.device = some d → d.Blank
  state : m.deviceState ≠ .active

/-- What an operation counts on while it goes on. -/
def Task.Ready (c : Identity) : Task → Prop
  | .login l => c.enrolled.lookup l.deviceId = some l.key
  | .tokens session _ => c.login = some session.login
  | .cert new _ => c.enrolled.lookup new.deviceId = some new.key ∧
      c.memory.deviceState = .active ∧ ∃ d, c.memory.device = some d ∧ d.id = new.deviceId
  | .wanted up => up = true → c.memory.deviceState = .active
  | .mark _ => True

/-- What is about to be saved is what the file has by now, with the task's change. -/
def Task.Loaded (c : Identity) (content : Stored) : Task → Prop
  | .login l => content = l.stored
  | t => ∃ st, c.load = some st ∧ content = t.change st

/-- The file is as the login has saved it, up to the flag for the tunnel. -/
structure Landed (c : Identity) (l : Login) : Prop where
  wiped : c.wiped = none
  login : c.login = some l.session.login
  file : ∃ st, c.load = some st ∧ st.device = l.device

structure Running (c : Identity) (t : Task) (stage : Stage) : Prop where
  ready : t.Ready c
  loaded : ∀ content, stage = .save content → t.Loaded c content
  cleared : ∀ d, t = .mark d → stage ≠ .memory → Cleared c.memory
  landed : ∀ l, t = .login l → stage = .memory → Landed c l

/-- Neither a login nor a directive. -/
def Task.plain : Task → Bool
  | .login _ => false
  | .mark _ => false
  | _ => true

variable {o p : Op} {i : OpId} {new : Option Op}

lemma Running.of_ready {c t stage} (h : t.Ready c) (ht : t.plain = true)
    (hst : (Op.running t stage).saving = false) : Running c t stage where
  ready := h
  loaded content hc := by
    subst hc
    cases hst
  cleared d hd := by
    subst hd
    cases ht
  landed l hl := by
    subst hl
    cases ht

def Op.Inv (c : Identity) : Op → Prop
  | .refreshing session _ => c.login = some session.login
  | .renewing p => c.enrolled.lookup p.deviceId = some p.key
  | .running t stage => Running c t stage

structure FileInv (c : Identity) (st : Stored) : Prop where
  coherent : st.device.Coherent
  login : c.login = some st.session.login
  key : ∀ k, st.device.privateKey = some k → c.enrolled.lookup st.device.id = some k

structure Sound (c : Identity) : Prop where
  decrypts : ∀ k st, c.file = some (k, st) → c.keyFile = some k
  file : ∀ st, c.load = some st → FileInv c st
  held : ∀ d k, c.memory.device = some d → d.privateKey = some k →
    c.enrolled.lookup d.id = some k
  erased : ∀ stillUp, c.wiped = some stillUp → Erased c stillUp
  inactive : c.wiped ≠ none → c.memory.deviceState ≠ .active

/-- Memory and the file are of one login. -/
structure InStep (c : Identity) : Prop where
  device : ∀ d, c.memory.device = some d → ∃ st, c.load = some st ∧ st.device.id = d.id
  session : ∀ session, c.memory.session = some session → c.login = some session.login
  key : c.memory.deviceState = .active → ∀ st, c.load = some st → st.device.privateKey ≠ none

structure Inv (s : State) : Prop where
  sound : Sound s.toIdentity
  inStep : s.Without Op.landing → InStep s.toIdentity
  scheduler : ∀ p, s.scheduler = some p → s.enrolled.lookup p.deviceId = some p.key
  ops : ∀ i o, s.ops.lookup i = some o → o.Inv s.toIdentity
  apart : ∀ i j o p, s.ops.lookup i = some o → s.ops.lookup j = some p → i ≠ j → ¬o.Clash p

variable {s s' : State} {c : Identity} {t : Task} {content : Stored} {fresh : StateKey}

/-! ### Enrolling a device -/

section Enroll

variable {l : Login} (hnew : (c.enrolled.lookup l.deviceId).all (· == l.key) = true)
include hnew

lemma lookup_enroll {id k} (h : c.enrolled.lookup id = some k) :
    (c.enroll l).enrolled.lookup id = some k := by
  rw [Identity.enroll]
  by_cases hid : id = l.deviceId
  · subst hid
    rw [h] at hnew
    rw [AList.lookup_insert, eq_of_beq hnew]
  · rw [AList.lookup_insert_ne hid]
    exact h

lemma Sound.enroll (h : Sound c) : Sound (c.enroll l) where
  decrypts := h.decrypts
  file st hst := { h.file st hst with
    key := fun k hk => lookup_enroll hnew ((h.file st hst).key k hk) }
  held d k hd hk := lookup_enroll hnew (h.held d k hd hk)
  erased up hup := { h.erased up hup with }
  inactive := h.inactive

lemma Op.Inv.enroll (h : o.Inv c) : o.Inv (c.enroll l) := by
  cases o with
  | refreshing ses _ => exact h
  | renewing p => exact lookup_enroll hnew h
  | running t stage =>
    refine { h with
      ready := ?_
      loaded := ?_
      landed := fun l' ht hst => { h.landed l' ht hst with } }
    · have hr := h.ready
      cases t with
      | login l' => exact lookup_enroll hnew hr
      | cert new _ => exact ⟨lookup_enroll hnew hr.1, hr.2⟩
      | tokens | wanted | mark => exact hr
    · intro content hst
      have hl := h.loaded content hst
      cases t <;> exact hl

end Enroll

/-! ### Saving the file -/

lemma Directive.state_ne (d : Directive) : d.state ≠ .active := by
  cases d <;> decide

lemma load_save : (c.save t content fresh).load = some content := by
  simp [Identity.load, Identity.save]

lemma login_save (h : ∀ l, t ≠ .login l) : (c.save t content fresh).login = c.login := by
  cases t with
  | login l => exact absurd rfl (h l)
  | tokens | cert | wanted | mark => rfl

section Save

variable (hrun : Running c t (.save content))
include hrun

lemma FileInv.save (h : Sound c) (hin : ∀ new ca, t = .cert new ca → InStep c) :
    FileInv (c.save t content fresh) content := by
  have hl := hrun.loaded content rfl
  cases t with
  | login l =>
    obtain rfl : content = l.stored := hl
    exact ⟨rfl, rfl, fun k hk => by cases hk; exact hrun.ready⟩
  | tokens ses _ =>
    obtain ⟨st, hst, rfl⟩ := hl
    exact ⟨(h.file st hst).coherent, hrun.ready, (h.file st hst).key⟩
  | cert new ca =>
    obtain ⟨st, hst, rfl⟩ := hl
    obtain ⟨he, ha, d, hd, hid⟩ := hrun.ready
    have hin := hin new ca rfl
    obtain ⟨st', hst', hid'⟩ := hin.device d hd
    cases hst.symm.trans hst'
    obtain ⟨k, hk⟩ := ne_none_iff_exists'.1 (hin.key ha st hst)
    have hkey := (h.file st hst).key k hk
    rw [hid', hid, he] at hkey
    cases hkey
    refine ⟨?_, (h.file st hst).login, (h.file st hst).key⟩
    simp only [Device.Coherent, Task.change, hk, map_some, hid', hid]
  | wanted up =>
    obtain ⟨st, hst, rfl⟩ := hl
    exact { h.file st hst with }
  | mark d =>
    obtain ⟨st, hst, rfl⟩ := hl
    exact ⟨rfl, (h.file st hst).login, by rintro _ ⟨⟩⟩

lemma Erased.save (h : Sound c) {stillUp} (hw : (c.save t content fresh).wiped = some stillUp) :
    Erased (c.save t content fresh) stillUp ∧ c.memory.deviceState ≠ .active := by
  have hl := hrun.loaded content rfl
  cases t with
  | login l => cases hw
  | tokens ses _ =>
    obtain ⟨st, hst, rfl⟩ := hl
    have he := h.erased stillUp hw
    refine ⟨{ he with file := fun st' hst' => ?_ }, h.inactive (hw ▸ some_ne_none _)⟩
    cases load_save.symm.trans hst'
    exact he.file st hst
  | cert new ca => exact absurd hrun.ready.2.1 (h.inactive (hw ▸ some_ne_none _))
  | wanted up =>
    obtain ⟨st, hst, rfl⟩ := hl
    have he := h.erased stillUp hw
    have hne := h.inactive (hw ▸ some_ne_none _)
    refine ⟨{ he with file := fun st' hst' => ?_ }, hne⟩
    cases load_save.symm.trans hst'
    exact ⟨(he.file st hst).1, Bool.eq_false_iff.2 fun hup => hne (hrun.ready hup)⟩
  | mark d =>
    obtain ⟨st, hst, rfl⟩ := hl
    cases hw
    have hc := hrun.cleared d rfl (by simp)
    refine ⟨⟨fun st' hst' => ?_, hc.device, id⟩, hc.state⟩
    cases load_save.symm.trans hst'
    exact ⟨⟨rfl, rfl⟩, rfl⟩

lemma Sound.save (h : Sound c) (hin : ∀ new ca, t = .cert new ca → InStep c) :
    Sound (c.save t content fresh) where
  decrypts k st hf := by cases hf; rfl
  file st hst := by
    cases load_save.symm.trans hst
    exact FileInv.save hrun h hin
  held := h.held
  erased stillUp hw := (Erased.save hrun h hw).1
  inactive hw := by
    obtain ⟨stillUp, hw⟩ := ne_none_iff_exists'.1 hw
    exact (Erased.save hrun h hw).2

lemma InStep.save (h : InStep c) (hlg : ∀ l, t ≠ .login l) : InStep (c.save t content fresh) := by
  have hl := hrun.loaded content rfl
  -- but for a directive, which has made the device inactive, the device keeps its id and its key
  suffices hf : ∃ st, c.load = some st ∧ content.device.id = st.device.id ∧
      (c.memory.deviceState = .active → content.device.privateKey = st.device.privateKey) by
    obtain ⟨st, hst, hid, hk⟩ := hf
    refine ⟨fun d hd => ⟨content, load_save, ?_⟩, fun ses hs => ?_, fun ha st' hst' => ?_⟩
    · obtain ⟨st', hst', hid'⟩ := h.device d hd
      cases hst.symm.trans hst'
      exact hid.trans hid'
    · rw [login_save hlg]
      exact h.session ses hs
    · cases load_save.symm.trans hst'
      rw [hk ha]
      exact h.key ha st hst
  cases t with
  | login l => exact absurd rfl (hlg l)
  | tokens | cert | wanted =>
    obtain ⟨st, hst, rfl⟩ := hl
    exact ⟨st, hst, rfl, fun _ => rfl⟩
  | mark d =>
    obtain ⟨st, hst, rfl⟩ := hl
    have hc := hrun.cleared d rfl (by simp)
    exact ⟨st, hst, rfl, fun ha => absurd ha hc.state⟩

lemma Landed.save {l} (h : Landed c l) (hb : (Op.running t (.save content)).barsLogin = false) :
    Landed (c.save t content fresh) l := by
  have hl := hrun.loaded content rfl
  cases t with
  | login | tokens | cert | mark => cases hb
  | wanted up =>
    obtain ⟨st, hst, rfl⟩ := hl
    obtain ⟨st', hst', hd⟩ := h.file
    cases hst.symm.trans hst'
    exact ⟨h.wiped, h.login, _, load_save, hd⟩

end Save

lemma Op.Inv.save (h : p.Inv c) (hrun : Running c t (.save content))
    (hapart : ¬(Op.running t (.save content)).Clash p) : p.Inv (c.save t content fresh) := by
  have hl : p.barsLogin = true → (c.save t content fresh).login = c.login := fun hb =>
    login_save (by rintro l rfl; exact hapart (.inl (.inr (.inl ⟨rfl, hb⟩))))
  cases p with
  | refreshing ses _ => exact (hl rfl).trans h
  | renewing p => exact h
  | running u stage =>
    refine { h with ready := ?_, loaded := ?_, landed := ?_ }
    · have hr := h.ready
      cases u with
      | tokens _ _ => exact (hl rfl).trans hr
      | login | cert | wanted | mark => exact hr
    · rintro cont' rfl
      exact absurd (.inl (.inl ⟨rfl, rfl⟩)) hapart
    · rintro l rfl rfl
      refine (h.landed l rfl rfl).save hrun (Bool.eq_false_iff.2 fun hb => hapart ?_)
      exact .inr (.inr (.inl ⟨rfl, hb⟩))

/-! ### Updating memory -/

section Update

variable (hrun : Running c t .memory)
include hrun

/-- After a directive no operation that would bring something back is in flight. -/
lemma Erased.update (h : Sound c) {stillUp} (hw : c.wiped = some stillUp) :
    Erased (c.update t) (stillUp && (t.apply c.memory).tunnelWanted) ∧
      (t.apply c.memory).deviceState ≠ .active := by
  have he := h.erased stillUp hw
  have hne := h.inactive (hw ▸ some_ne_none _)
  cases t with
  | login l =>
    rw [(hrun.landed l rfl rfl).wiped] at hw
    cases hw
  | tokens ses _ =>
    exact ⟨⟨he.file, he.memory, fun hup => Bool.and_eq_true_iff.2 ⟨he.flag hup, hup⟩⟩, hne⟩
  | cert new ca => exact absurd hrun.ready.2.1 hne
  | wanted up =>
    refine ⟨⟨he.file, he.memory, fun hup => ?_⟩, hne⟩
    exact absurd (hrun.ready hup) hne
  | mark d =>
    refine ⟨⟨he.file, fun d' hd' => ?_, fun hup => Bool.and_eq_true_iff.2 ⟨he.flag hup, hup⟩⟩,
      d.state_ne⟩
    obtain ⟨old, -, rfl⟩ := map_eq_some_iff.1 hd'
    exact ⟨rfl, rfl⟩

lemma Sound.update (h : Sound c) : Sound (c.update t) where
  decrypts := h.decrypts
  file st hst := { h.file st hst with }
  held d k hd hk := by
    cases t with
    | login l =>
      cases hd
      cases hk
      exact hrun.ready
    | tokens | wanted => exact h.held d k hd hk
    | cert _ _ =>
      obtain ⟨old, hold, rfl⟩ := map_eq_some_iff.1 hd
      exact h.held old k hold hk
    | mark _ =>
      obtain ⟨old, -, rfl⟩ := map_eq_some_iff.1 hd
      cases hk
  erased stillUp hw := by
    obtain ⟨before, hb, rfl⟩ := map_eq_some_iff.1 hw
    exact (Erased.update hrun h hb).1
  inactive hw := by
    obtain ⟨stillUp, hw⟩ := ne_none_iff_exists'.1 hw
    obtain ⟨before, hb, -⟩ := map_eq_some_iff.1 hw
    exact (Erased.update hrun h hb).2

lemma InStep.update (h : (∀ l, t ≠ .login l) → InStep c) : InStep (c.update t) := by
  cases t with
  | login l =>
    obtain ⟨-, hl, st, hst, hdv⟩ := hrun.landed l rfl rfl
    refine ⟨fun d hd => ?_, fun ses hs => ?_, fun _ st' hst' => ?_⟩
    · cases hd
      exact ⟨st, hst, congrArg Device.id hdv⟩
    · cases hs
      exact hl
    · cases hst.symm.trans hst'
      rw [hdv]
      exact some_ne_none _
  | tokens ses _ =>
    have h := h (by simp)
    refine ⟨h.device, fun ses' hs => ?_, h.key⟩
    obtain ⟨old, -, rfl⟩ := map_eq_some_iff.1 hs
    exact hrun.ready
  | cert new ca =>
    have h := h (by simp)
    refine ⟨fun d hd => ?_, h.session, h.key⟩
    obtain ⟨old, hold, rfl⟩ := map_eq_some_iff.1 hd
    exact h.device old hold
  | wanted up => exact { h (by simp) with }
  | mark d =>
    have h := h (by simp)
    refine ⟨fun d' hd' => ?_, h.session, fun ha => absurd ha d.state_ne⟩
    obtain ⟨old, hold, rfl⟩ := map_eq_some_iff.1 hd'
    exact h.device old hold

end Update

lemma Cleared.mark (m : Memory) (d : Directive) : Cleared ((Task.mark d).apply m) where
  device d' hd' := by
    obtain ⟨old, -, rfl⟩ := map_eq_some_iff.1 hd'
    exact ⟨rfl, rfl⟩
  state := d.state_ne

section Others

variable {u : Task} {stage stage' : Stage}
  (hapart : ¬(Op.running t stage).Clash (.running u stage'))
include hapart

lemma Task.Ready.update (h : u.Ready c) : u.Ready (c.update t) := by
  cases u with
  | login | tokens | mark => exact h
  | cert new ca =>
    obtain ⟨he, ha, d, hd, hid⟩ := h
    cases t with
    | login _ => exact absurd (.inl (.inr (.inl ⟨rfl, rfl⟩))) hapart
    | mark _ => exact absurd (.inl (.inr (.inr ⟨rfl, rfl⟩))) hapart
    | tokens | wanted => exact ⟨he, ha, d, hd, hid⟩
    | cert _ _ => exact ⟨he, ha, _, congrArg (Option.map _) hd, hid⟩
  | wanted up =>
    intro hup
    cases t with
    | login _ => rfl
    | mark _ => exact absurd (.inl (.inr (.inr ⟨rfl, hup⟩))) hapart
    | tokens | wanted | cert => exact h hup

lemma Cleared.update {d} (hu : u = .mark d) (h : Cleared c.memory) :
    Cleared (c.update t).memory := by
  subst hu
  cases t with
  | login _ => exact absurd (.inl (.inr (.inl ⟨rfl, rfl⟩))) hapart
  | cert _ _ => exact absurd (.inr (.inr (.inr ⟨rfl, rfl⟩))) hapart
  | mark d' => exact .mark c.memory d'
  | tokens | wanted => exact { h with }

end Others

lemma Op.Inv.update (h : p.Inv c) {stage} (hapart : ¬(Op.running t stage).Clash p) :
    p.Inv (c.update t) := by
  cases p with
  | refreshing | renewing => exact h
  | running u stage =>
    refine ⟨h.ready.update hapart, fun content hst => ?_,
      fun d hu hst => (h.cleared d hu hst).update hapart hu, fun l hu hst => ?_⟩
    · have hl := h.loaded content hst
      cases u <;> exact hl
    · obtain ⟨hw, hlg, hf⟩ := h.landed l hu hst
      exact ⟨congrArg (Option.map _) hw, hlg, hf⟩

/-! ### Operations side by side -/

lemma Op.Clash.symm (h : o.Clash p) : p.Clash o := h.elim .inr .inl

lemma lookup_put {j} :
    (s.put c i new).ops.lookup j = some o ↔
      j = i ∧ new = some o ∨ j ≠ i ∧ s.ops.lookup j = some o := by
  cases new with
  | none =>
    rw [State.put, lookup_erase_eq_some]
    simp [and_comm]
  | some p =>
    rw [State.put, lookup_insert_eq_some]
    simp [eq_comm]

/-- The operations but `i` are apart from `o`. -/
def Others (s : State) (i : OpId) (o : Op) : Prop :=
  ∀ j p, j ≠ i → s.ops.lookup j = some p → ¬o.Clash p

lemma Inv.put (h : Inv s) (hs : Sound c) (hin : (s.put c i new).Without Op.landing → InStep c)
    (hg : ∀ id k, s.enrolled.lookup id = some k → c.enrolled.lookup id = some k)
    (hoth : ∀ j p, j ≠ i → s.ops.lookup j = some p → p.Inv c)
    (hnew : ∀ o, new = some o → o.Inv c ∧ Others s i o) : Inv (s.put c i new) where
  sound := hs
  inStep := hin
  scheduler p hp := hg _ _ (h.scheduler p hp)
  ops j o ho := by
    rcases lookup_put.1 ho with ⟨rfl, hn'⟩ | ⟨hne, hold⟩
    · exact (hnew o hn').1
    · exact hoth j o hne hold
  apart j k o p hj hk hne := by
    rcases lookup_put.1 hj with ⟨rfl, ho⟩ | ⟨hji, ho⟩ <;>
      rcases lookup_put.1 hk with ⟨rfl, hp⟩ | ⟨hki, hp⟩
    · exact absurd rfl hne
    · exact (hnew o ho).2 k p hki hp
    · exact fun hc => (hnew p hp).2 j o hji ho hc.symm
    · exact h.apart j k o p ho hp hne

lemma Inv.inStep_put (h : Inv s) (hold : ∀ o, s.ops.lookup i = some o → o.landing = false)
    (hw : (s.put c i new).Without Op.landing) : InStep s.toIdentity := by
  refine h.inStep fun j o ho => ?_
  by_cases hj : j = i
  · subst hj
    exact hold o ho
  · exact hw j o (lookup_put.2 (.inr ⟨hj, ho⟩))

lemma Inv.goOn (h : Inv s) (hold : ∀ o, s.ops.lookup i = some o → o.landing = false)
    (hnew : ∀ o, new = some o → o.Inv s.toIdentity ∧ Others s i o) : Inv (s.goOn i new) :=
  h.put h.sound (h.inStep_put hold) (fun _ _ hk => hk) (fun j p _ hp => h.ops j p hp) hnew

lemma Inv.begin (h : Inv s) (hi : s.ops.lookup i = none) (ho : o.Inv s.toIdentity)
    (hoth : Others s i o) : Inv (s.goOn i (some o)) := by
  refine h.goOn (fun o' ho' => ?_) fun o' ho' => ?_
  · rw [hi] at ho'
    cases ho'
  · cases ho'
    exact ⟨ho, hoth⟩

lemma Inv.finish (h : Inv s) (hi : s.ops.lookup i = some o) (hold : o.landing = false) :
    Inv (s.goOn i none) := by
  refine h.goOn (fun o' ho' => ?_) (by simp)
  cases hi.symm.trans ho'
  exact hold

lemma clash_running (stage : Stage) {t stage'} (h : (Op.running t stage').Clash p) :
    (Op.running t stage').saving = true ∧ p.saving = true ∨ (Op.running t stage).Clash p := by
  -- what an operation bars does not depend on its stage
  rcases h with (hs | h) | (hs | h)
  · exact .inl hs
  · exact .inr (.inl (.inr (by cases t <;> exact h)))
  · exact .inl hs.symm
  · exact .inr (.inr (.inr (by cases t <;> exact h)))

lemma Inv.others (h : Inv s) (hi : s.ops.lookup i = some o) : Others s i o :=
  fun j p hj hp => h.apart i j o p hi hp (Ne.symm hj)

lemma Inv.others_running (h : Inv s) {stage stage'}
    (hi : s.ops.lookup i = some (.running t stage))
    (hsv : (Op.running t stage').saving = true → s.Without Op.saving) :
    Others s i (.running t stage') := by
  intro j p hj hp hc
  rcases clash_running stage hc with ⟨hs, hps⟩ | hc
  · rw [hsv hs j p hp] at hps
    cases hps
  · exact h.others hi j p hj hp hc

lemma others_of_without (hs : o.saving = true → s.Without Op.saving)
    (hl : o.isLogin = true → s.Without Op.barsLogin)
    (hb : o.barsLogin = true → s.Without Op.isLogin)
    (hd : o.isDirective = true → s.Without Op.barsDirective)
    (hb' : o.barsDirective = true → s.Without Op.isDirective) : Others s i o := by
  intro j p _ hp hc
  have hn : ∀ {f : Op → Bool}, s.Without f → f p ≠ true := fun hf => by simp [hf j p hp]
  rcases hc with (⟨ho, hq⟩ | ⟨ho, hq⟩ | ⟨ho, hq⟩) | (⟨hq, ho⟩ | ⟨hq, ho⟩ | ⟨hq, ho⟩)
  · exact hn (hs ho) hq
  · exact hn (hl ho) hq
  · exact hn (hd ho) hq
  · exact hn (hs ho) hq
  · exact hn (hb ho) hq
  · exact hn (hb' ho) hq

/-! ### The steps -/

lemma landing_eq_false {t stage} (h : stage = .memory → ∀ l, t ≠ .login l) :
    (Op.running t stage).landing = false := by
  cases stage with
  | load | save => cases t <;> rfl
  | memory =>
    cases t with
    | login l => exact absurd rfl (h rfl l)
    | tokens | cert | wanted | mark => rfl

lemma isLogin_of_landing (h : o.landing = true) : o.isLogin = true := by
  cases o with
  | refreshing | renewing => cases h
  | running t stage =>
    cases t with
    | login l => rfl
    | tokens | cert | wanted | mark => cases h

lemma Inv.login (h : Inv s) {l} (hi : s.ops.lookup i = none)
    (hnew : (s.enrolled.lookup l.deviceId).all (· == l.key) = true)
    (hok : s.Without Op.saving ∧ s.Without Op.barsLogin) :
    Inv (s.put (s.enroll l) i (some (.running (.login l) (.save l.stored)))) := by
  refine h.put (h.sound.enroll hnew) (fun hw => ?_) (fun id k hk => lookup_enroll hnew hk)
    (fun j p _ hp => (h.ops j p hp).enroll hnew) ?_
  · refine { h.inStep_put (fun o ho => ?_) hw with }
    rw [hi] at ho
    cases ho
  · rintro o ⟨⟩
    refine ⟨⟨AList.lookup_insert _, fun content hst => ?_, by simp,
      by simp⟩, others_of_without (fun _ => hok.1) (fun _ => hok.2)
      (fun _ j p hp => ?_) Bool.noConfusion Bool.noConfusion⟩
    · cases hst
      rfl
    · have hb := hok.2 j p hp
      simp only [Op.barsLogin, Bool.or_eq_false_iff] at hb
      exact hb.1.1.1

lemma Inv.loaded (h : Inv s) {st} (hi : s.ops.lookup i = some (.running t .load))
    (hst : s.load = some st) (hok : s.Without Op.saving) :
    Inv (s.goOn i (some (.running t (.save (t.change st))))) := by
  have hrun : Running s.toIdentity t .load := h.ops i _ hi
  refine h.goOn (fun o ho => ?_) ?_
  · cases hi.symm.trans ho
    exact landing_eq_false (by simp)
  · rintro o ⟨⟩
    refine ⟨⟨hrun.ready, fun content hc => ?_, fun d ht _ => hrun.cleared d ht (by simp), by simp⟩,
      h.others_running hi fun _ => hok⟩
    cases hc
    cases t with
    | login l => rfl
    | tokens | cert | wanted | mark => exact ⟨st, hst, rfl⟩

lemma Inv.failed (h : Inv s) {stage} (hi : s.ops.lookup i = some (.running t stage))
    (hst : stage ≠ .memory) : Inv (s.goOn i t.afterError) := by
  have hrun : Running s.toIdentity t stage := h.ops i _ hi
  refine h.goOn (fun o ho => ?_) fun o ho => ?_
  · cases hi.symm.trans ho
    exact landing_eq_false fun hst' => absurd hst' hst
  · cases t with
    | tokens ses scheduled =>
      cases scheduled with
      | false => cases ho
      | true =>
        cases ho
        exact ⟨.of_ready hrun.ready rfl rfl, h.others_running hi Bool.noConfusion⟩
    | cert _ _ =>
      cases ho
      exact ⟨.of_ready hrun.ready rfl rfl, h.others_running hi Bool.noConfusion⟩
    | login | wanted | mark => cases ho

lemma Inv.saved (h : Inv s) (hi : s.ops.lookup i = some (.running t (.save content))) :
    Inv (s.put (s.save t content fresh) i t.afterSave) := by
  have hrun : Running s.toIdentity t (.save content) := h.ops i _ hi
  have hoth := h.others hi
  have hold : ∀ o, s.ops.lookup i = some o → o.landing = false := by
    intro o ho
    cases hi.symm.trans ho
    exact landing_eq_false (by simp)
  have hc : ∀ new ca, t = .cert new ca → InStep s.toIdentity := by
    rintro new ca rfl
    refine h.inStep fun j p hp => Bool.eq_false_iff.2 fun hln => ?_
    by_cases hj : j = i
    · subst hj
      rw [hold p hp] at hln
      cases hln
    · exact hoth j p hj hp (.inr (.inr (.inl ⟨isLogin_of_landing hln, rfl⟩)))
  refine h.put (h.sound.save hrun hc) (fun hw => ?_) (fun _ _ hk => hk)
    (fun j p hj hp => (h.ops j p hp).save hrun (hoth j p hj hp)) fun o ho => ?_
  · refine InStep.save hrun (h.inStep_put hold hw) ?_
    rintro l rfl
    cases hw i _ (lookup_put.2 (.inl ⟨rfl, rfl⟩))
  · have hr := hrun.ready
    have hld := hrun.loaded content rfl
    cases t with
    | login l =>
      cases ho
      obtain rfl : content = l.stored := hld
      refine ⟨⟨hr, by simp, by simp, fun l' hl _ => ?_⟩, h.others_running hi Bool.noConfusion⟩
      cases hl
      exact ⟨rfl, rfl, l.stored, load_save, rfl⟩
    | tokens | cert =>
      cases ho
      exact ⟨.of_ready hr rfl rfl, h.others_running hi Bool.noConfusion⟩
    | wanted | mark => cases ho

lemma Inv.updated (h : Inv s) (hi : s.ops.lookup i = some (.running t .memory)) :
    Inv (s.put (s.update t) i t.afterMemory) := by
  have hrun : Running s.toIdentity t .memory := h.ops i _ hi
  refine h.put (h.sound.update hrun) (fun hw => ?_) (fun _ _ hk => hk)
    (fun j p hj hp => (h.ops j p hp).update (h.others hi j p hj hp)) fun o ho => ?_
  · refine InStep.update hrun fun hl => h.inStep_put (fun o ho => ?_) hw
    cases hi.symm.trans ho
    exact landing_eq_false fun _ => hl
  · have hr := hrun.ready
    cases t with
    | login | tokens | cert => cases ho
    | wanted up =>
      cases ho
      exact ⟨.of_ready hr rfl rfl, h.others_running hi Bool.noConfusion⟩
    | mark d =>
      cases ho
      exact ⟨⟨trivial, by simp, fun _ _ _ => .mark s.memory d,
        by simp⟩, h.others_running hi Bool.noConfusion⟩

lemma Inv.next (s : State) (a : Action) (s' : State) (h : Inv s) (hok : Orderly s a)
    (hs : step s a = some s') : Inv s' := by
  cases a <;> dsimp only [step] at hs
  case login i l =>
    obtain ⟨⟨hi, hnew⟩, rfl⟩ := ite_some_none_eq_some.1 hs
    exact h.login hi hnew hok
  case refresh i scheduled =>
    obtain ⟨⟨hi, -, -⟩, session, hss, rfl⟩ := ite_map_eq_some.1 hs
    have hok : s.Without Op.isLogin := hok
    have hin : InStep s.toIdentity := h.inStep fun j p hp => Bool.eq_false_iff.2 fun hl =>
      absurd (hok j p hp) (ne_false_of_eq_true (isLogin_of_landing hl))
    exact h.begin hi (hin.session session hss)
      (others_of_without Bool.noConfusion Bool.noConfusion (fun _ => hok) Bool.noConfusion
        Bool.noConfusion)
  case rotated i accessToken refreshToken expiresAt =>
    split at hs
    · rename_i session scheduled hi
      cases hs
      have hlg : s.login = some session.login := h.ops i _ hi
      refine h.goOn (fun o ho => ?_) ?_
      · cases hi.symm.trans ho
        rfl
      · rintro o ⟨⟩
        exact ⟨.of_ready hlg rfl rfl, fun j p hj hp hc => h.others hi j p hj hp hc⟩
    · cases hs
  case plan =>
    obtain ⟨-, hs⟩ := ite_none_right_eq_some.1 hs
    obtain ⟨d, hd, hs⟩ := bind_eq_some_iff.1 hs
    obtain ⟨k, hk, rfl⟩ := map_eq_some_iff.1 hs
    exact { h with
      scheduler := fun p hp => by
        cases hp
        exact h.sound.held d k hd hk }
  case renew i =>
    obtain ⟨⟨hi, -⟩, p, hp, rfl⟩ := ite_map_eq_some.1 hs
    exact h.begin hi (h.scheduler p hp) (others_of_without Bool.noConfusion
      Bool.noConfusion Bool.noConfusion Bool.noConfusion Bool.noConfusion)
  case renewed i expiresAt =>
    split at hs
    · rename_i p hi
      split at hs
      · rename_i hid
        cases hs
        obtain ⟨ha, hlg, hdr⟩ := hok
        refine h.goOn (fun o ho => ?_) ?_
        · cases hi.symm.trans ho
          rfl
        · rintro o ⟨⟩
          exact ⟨.of_ready ⟨h.ops i _ hi, ha, map_eq_some_iff.1 hid⟩ rfl rfl,
            others_of_without Bool.noConfusion Bool.noConfusion (fun _ => hlg)
              Bool.noConfusion (fun _ => hdr)⟩
      · cases hs
        exact h.finish hi rfl
    · cases hs
  case refused i =>
    split at hs
    all_goals cases hs
    all_goals exact h.finish ‹_› rfl
  case wanted i up =>
    obtain ⟨⟨hi, -⟩, rfl⟩ := ite_some_none_eq_some.1 hs
    have hr : (Task.wanted up).Ready s.toIdentity := fun hup => (hok hup).1
    exact h.begin hi (.of_ready hr rfl rfl) (others_of_without Bool.noConfusion
      Bool.noConfusion Bool.noConfusion Bool.noConfusion fun hup => (hok hup).2)
  case directive i d =>
    obtain ⟨hi, rfl⟩ := ite_some_none_eq_some.1 hs
    exact h.begin hi ⟨trivial, by simp, fun _ _ hst => absurd rfl hst,
      by simp⟩ (others_of_without Bool.noConfusion
      Bool.noConfusion (fun _ => hok.1) (fun _ => hok.2) Bool.noConfusion)
  case load i =>
    split at hs
    · rename_i t hi
      split at hs
      · cases hs
        exact h.loaded hi ‹_› hok
      · cases hs
        exact h.failed hi (by simp)
    · cases hs
  case save i fresh =>
    split at hs <;> cases hs
    exact h.saved ‹_›
  case ioError i =>
    split at hs
    all_goals cases hs
    all_goals exact h.failed ‹_› (by simp)
  case memory i =>
    split at hs <;> cases hs
    exact h.updated ‹_›

lemma Inv.coherent (h : Inv s) : Coherent s where
  saved _ hf := by
    obtain ⟨⟨key, st⟩, hf⟩ := ne_none_iff_exists'.1 hf
    have hst : s.load = some st := by
      rw [Identity.load, hf, bind_some, if_pos (h.sound.decrypts key st hf)]
    exact ⟨st, hst, (h.sound.file st hst).coherent, (h.sound.file st hst).login⟩
  erased := h.sound.erased

lemma Inv.start : Inv start where
  sound := ⟨nofun, nofun, nofun, nofun, fun h => absurd rfl h⟩
  inStep _ := ⟨nofun, nofun, nofun⟩
  scheduler _ h := by cases h
  ops _ _ h := by cases h
  apart _ _ _ _ h := by cases h

/-- **The saved identity is coherent** after every step of an orderly run. -/
theorem identity_coherent {acts : List Action} (h : Meets step Orderly start acts) :
    Always step (fun _ _ s' => Coherent s') start acts := by
  refine always_of_meets Inv.next (fun s a s' hi hok hs => ?_) .start h
  exact (Inv.next s a s' hi hok hs).coherent

/-! ### Runs -/

def laptop : Login := ⟨"d1", 1, "ca", 100, ⟨1, "a1", "r1", 10⟩⟩

/-- The same machine, enrolled again. -/
def laptopAgain : Login := ⟨"d2", 2, "ca", 200, ⟨2, "a2", "r2", 20⟩⟩

def loggedIn : List Action := [.login 0 laptop, .save 0 7, .memory 0]

/-- The tunnel is brought up; then, side by side, the certificate is renewed and the tokens are
refreshed; the device is revoked and a new one is enrolled. -/
def orderlyLife : List Action :=
  loggedIn ++ [Action.wanted 1 true, .memory 1, .load 1, .save 1 8, .plan, .renew 2,
    .refresh 3 true, .rotated 3 "a1'" "r1'" 15, .renewed 2 150, .load 3, .save 3 8, .load 2,
    .save 2 8, .memory 3, .memory 2, .directive 4 .revoked, .memory 4, .load 4, .save 4 8,
    .login 5 laptopAgain, .save 5 8, .memory 5]

theorem identity_coherent_orderlyLife :
    (exec step start orderlyLife).isSome = true ∧
      Always step (fun _ _ s' => Coherent s') start orderlyLife :=
  ⟨by decide +kernel, identity_coherent (by decide +kernel)⟩

/-- A renewal that is answered after the device has been revoked. -/
def renewedAfterRevocation : List Action :=
  loggedIn ++ [Action.plan, .renew 1, .directive 2 .revoked, .memory 2, .load 2, .save 2 8,
    .renewed 1 150, .load 1, .save 1 8, .memory 1]

/-- A refresh that writes back what it has loaded before the device has been revoked. -/
def refreshedAcrossRevocation : List Action :=
  loggedIn ++ [Action.refresh 1 true, .rotated 1 "a1'" "r1'" 15, .load 1, .directive 2 .revoked,
    .memory 2, .load 2, .save 2 8, .save 1 8, .memory 1]

/-- A refresh that is answered after a new login. -/
def refreshedAcrossLogin : List Action :=
  loggedIn ++ [Action.refresh 1 true, .login 2 laptopAgain, .save 2 8, .memory 2,
    .rotated 1 "a1'" "r1'" 15, .load 1, .save 1 8, .memory 1]

/-- A certificate that is accepted while a new login has yet to reach memory. -/
def renewedAcrossLogin : List Action :=
  loggedIn ++ [Action.plan, .renew 1, .login 2 laptopAgain, .save 2 8, .renewed 1 150, .memory 2,
    .load 1, .save 1 8, .memory 1]

/-- The user's tunnel has come up before the device is revoked, and the choice is recorded after
it. -/
def upAfterRevocation : List Action :=
  loggedIn ++ [Action.directive 1 .revoked, .memory 1, .load 1, .save 1 8, .wanted 2 true,
    .memory 2, .load 2, .save 2 8]

/-- With no operation in flight: the certificate of a revoked device, its private key, tokens of an
earlier login, the certificate of another device, and the flag for the tunnel. -/
theorem identity_incoherent :
    (∃ s, exec step start renewedAfterRevocation = some s ∧ s.Idle ∧ s.wiped ≠ none ∧
      ∃ st ∈ s.load, st.device.certificate ≠ none ∧ ¬st.device.Coherent) ∧
    (∃ s, exec step start refreshedAcrossRevocation = some s ∧ s.Idle ∧ s.wiped ≠ none ∧
      ∃ st ∈ s.load, st.device.privateKey ≠ none) ∧
    (∃ s, exec step start refreshedAcrossLogin = some s ∧ s.Idle ∧
      ∃ st ∈ s.load, s.login ≠ some st.session.login) ∧
    (∃ s, exec step start renewedAcrossLogin = some s ∧ s.Idle ∧
      ∃ st ∈ s.load, ¬st.device.Coherent) ∧
    (∃ s, exec step start upAfterRevocation = some s ∧ s.Idle ∧ s.wiped = some false ∧
      s.memory.tunnelWanted = true ∧ ∃ st ∈ s.load, st.tunnelWanted = true) := by
  refine ⟨?_, ?_, ?_, ?_, ?_⟩
  all_goals decide +kernel

end Zecurity.SavedIdentity
