import Zecurity.Runs
import Zecurity.ShieldResources

/-!
What a shield acks as protected (`apply_signed_resource_set` in
`shield/src/control_stream.rs`, `apply_resource_set` and `run_health_check_loop` in
`shield/src/resources.rs`).

A verified set is admitted, which records its generation; the active set is replaced; then the
nftables transaction runs, and the acks follow from its outcome. The control loop does this for
one snapshot at a time, and drains the queued acks in between. The health-check loop is a task of
its own. Every ack of an application is queued as well as sent, and waits there until the next
drain or until an ack for the same resource replaces it. A closed outbound channel ends the
sending after some acks. The last committed set and the generation whose transaction failed are
ghosts.
-/

namespace Zecurity.ShieldProtection

open NetAddr ShieldResources Runs List

/-- An application between the replacement of the active set and the end of the transaction. -/
structure Applying where
  payload : ResourceSetPayload
  now : Int
  hostAcks : List ResourceAck

structure State where
  res : SharedResourceState
  floor : ℕ
  chain : List Rule
  applying : Option Applying
  round : Option (List ActiveResource)
  sent : List ResourceAck
  /-- the set of the last transaction that the kernel took (ghost) -/
  committed : Option (List ActiveResource)
  /-- the generation of the last application, if its transaction failed (ghost) -/
  failed : Option ℕ

/-- A shield that has just started: the chain is what an earlier process left. -/
def start (floor : ℕ) (chain : List Rule) : State :=
  ⟨.new, floor, chain, none, none, [], none, none⟩

inductive Action
  /-- a verified set arrives; `sends` acks go out before the channel closes -/
  | snapshot (payload : ResourceSetPayload) (lanIp : Option String) (now : Int) (sends : ℕ)
  | nftables (outcome : Except String Unit) (answers : SocketAddr → Bool) (removedAt : Int)
    (sends : ℕ)
  | healthRead
  | healthStore (answers : SocketAddr → Bool) (now : Int)
  | drain (sends : ℕ)

/-- Each ack is queued, then sent; the first that cannot be sent ends the loop. -/
def sendAcks (s : State) (acks : List ResourceAck) (sends : ℕ) : State :=
  { s with
    res := { s.res with acks := storeAcks s.res.acks (acks.take (sends + 1)) }
    sent := acks.take sends }

def applyAcks (s : State) (a : Applying) (outcome : Except String Unit)
    (answers : SocketAddr → Bool) (removedAt : Int) : List ResourceAck :=
  a.hostAcks ++ outcomeAcks answers a.now s.res.active outcome ++ removeAcks removedAt a.payload

/-- What the transaction leaves. -/
def finish (s : State) (a : Applying) (outcome : Except String Unit) : State :=
  let s := { s with
    applying := none
    floor := max s.floor a.payload.generation }
  match outcome with
  | .ok () => { s with
      chain := commit s.chain (buildProtectRuleset s.res.active)
      committed := some s.res.active
      failed := none }
  | .error _ => { s with failed := some a.payload.generation }

def step (s : State) : Action → Option State
  | .snapshot payload lanIp now sends =>
    if s.applying.isSome then none
    else
      match (admitResourceSet s.res payload.generation s.floor).2 with
      | .stale => some { s with sent := [] }
      | .same => some (sendAcks s (removeAcks now payload) sends)
      | .apply => some { s with
          res := replaceActive (admitResourceSet s.res payload.generation s.floor).1 lanIp payload
          applying := some ⟨payload, now, hostAcks lanIp now payload.resources⟩
          sent := [] }
  | .nftables outcome answers removedAt sends =>
    match s.applying with
    | none => none
    | some a =>
      some (sendAcks (finish s a outcome) (applyAcks s a outcome answers removedAt) sends)
  | .healthRead =>
    if s.round.isSome then none else some { s with round := some s.res.active, sent := [] }
  | .healthStore answers now =>
    match s.round with
    | none => none
    | some resources => some { s with
        res := { s.res with acks := storeAcks s.res.acks (healthAcks answers now resources) }
        round := none
        sent := [] }
  | .drain sends =>
    if s.applying.isSome then none
    else some { s with res := { s.res with acks := [] }, sent := s.res.acks.take sends }

/-! ### The property and its condition -/

def HasRule (r : ActiveResource) (rule : AckRule) : Prop :=
  r.host = rule.host ∧ r.protocol = rule.protocol ∧ (r.portFrom.toNat : Int) = rule.portFrom ∧
    (r.portTo.toNat : Int) = rule.portTo

instance (r : ActiveResource) (rule : AckRule) : Decidable (HasRule r rule) := by
  unfold HasRule
  infer_instance

/-- The rule is part of the ruleset that was committed last, and in the chain. -/
def Enforced (s : State) (rule : AckRule) : Prop :=
  ∃ set, s.committed = some set ∧ ∃ r ∈ set, HasRule r rule ∧ ∀ x ∈ resourceRules r, x ∈ s.chain

/-- What the step sends as protected is enforced. -/
def ProtectedEnforced (_ : State) (_ : Action) (s' : State) : Prop :=
  ∀ ack ∈ s'.sent, ack.status = .protected → Enforced s' ack.rule

/-- A set whose transaction failed is applied when its generation arrives again. -/
def FailedReapplied (s : State) (a : Action) (s' : State) : Prop :=
  ∀ payload lanIp now sends, a = .snapshot payload lanIp now sends →
    s.failed = some payload.generation → s'.applying.isSome = true

/-- The generation whose transaction failed arrives again. -/
def Redelivers (s : State) : Action → Prop
  | .snapshot payload _ _ _ => s.failed = some payload.generation
  | _ => False

def RuleActive (s : State) (rule : AckRule) : Prop := ∃ r ∈ s.res.active, HasRule r rule

def RuleCommitted (s : State) (rule : AckRule) : Prop :=
  ∃ set ∈ s.committed, ∃ r ∈ set, HasRule r rule

/-- The rule is in force once the transaction has ended: one that fails leaves the old set. -/
def InForce (s : State) (rule : AckRule) : Except String Unit → Prop
  | .ok _ => RuleActive s rule
  | .error _ => RuleCommitted s rule

/-- The resources that an application acks, in the order of its acks. -/
def ackedIds (s : State) (a : Applying) : List String :=
  a.hostAcks.map (fun ack => ack.rule.resourceId) ++ s.res.active.map ActiveResource.resourceId ++
    a.payload.removes.map ResourceInstruction.resourceId

/-- No health check begins between a transaction that failed and the next application. What is
queued as protected when a transaction ends, or will be by the running health check, is a rule of
the set that is then in force, or for a resource that the acks of the application replace. -/
def ChecksCommitted (s : State) : Action → Prop
  | .nftables outcome _ _ sends => ∀ a ∈ s.applying,
      (∀ ack ∈ s.res.acks, ack.status = .protected →
        ack.rule.resourceId ∉ (ackedIds s a).take (sends + 1) → InForce s ack.rule outcome) ∧
      ∀ resources ∈ s.round, ∀ r ∈ resources, InForce s r.fields outcome
  | .healthRead => s.applying.isSome = true ∨ s.failed = none
  | _ => True

instance (s : State) (rule : AckRule) (outcome : Except String Unit) :
    Decidable (InForce s rule outcome) := by
  cases outcome <;> unfold InForce <;> (try unfold RuleActive) <;> (try unfold RuleCommitted) <;>
    infer_instance

instance (s : State) (a : Action) : Decidable (ChecksCommitted s a) := by
  cases a <;> unfold ChecksCommitted <;> infer_instance

/-! ### The invariant -/

variable {s s' : State} {now : Int} {ack : ResourceAck} {answers : SocketAddr → Bool}

lemma hasRule_fields (r : ActiveResource) : HasRule r r.fields := ⟨rfl, rfl, rfl, rfl⟩

/-- The rule is in force, or will be if the transaction under way commits. -/
def Current (s : State) (rule : AckRule) : Prop :=
  RuleCommitted s rule ∨ s.applying.isSome = true ∧ RuleActive s rule

structure Inv (s : State) : Prop where
  chain : ∀ set, s.committed = some set → s.chain = set.flatMap resourceRules
  active : s.applying = none → s.failed = none → ∀ rule, RuleActive s rule → RuleCommitted s rule
  queued : ∀ ack ∈ s.res.acks, ack.status = .protected → Current s ack.rule
  round : ∀ resources, s.round = some resources → ∀ r ∈ resources, Current s r.fields
  hostAcks : ∀ a, s.applying = some a → ∀ ack ∈ a.hostAcks, ack.status ≠ .protected

lemma inv_start (floor : ℕ) (chain : List Rule) : Inv (start floor chain) where
  chain := nofun
  active := fun _ _ _ ⟨_, hr, _⟩ => by cases hr
  queued := nofun
  round := nofun
  hostAcks := nofun

variable {rule : AckRule} {a : Applying} {removedAt : Int} {pl : ResourceSetPayload} {sends : ℕ}
  {out : Except String Unit}

lemma Inv.enforced (hi : Inv s) (h : RuleCommitted s rule) : Enforced s rule := by
  obtain ⟨set, hs, r, hr, hrl⟩ := h
  refine ⟨set, hs, r, hr, hrl, fun x hx => ?_⟩
  rw [hi.chain set hs]
  exact mem_flatMap.2 ⟨r, hr, hx⟩

lemma Current.committed (h : Current s rule) (hi : s.applying = none) : RuleCommitted s rule := by
  rcases h with h | ⟨h, -⟩
  · exact h
  · rw [hi] at h
    cases h

lemma applyAcks_ids (s : State) (a : Applying) (out : Except String Unit)
    (answers : SocketAddr → Bool) (removedAt : Int) :
    (applyAcks s a out answers removedAt).map (fun ack => ack.rule.resourceId) = ackedIds s a := by
  have ho : (outcomeAcks answers a.now s.res.active out).map
      (fun ack => ack.rule.resourceId) = s.res.active.map ActiveResource.resourceId := by
    rcases out with err | _
    · simp [outcomeAcks, makeAck, ActiveResource.fields, Function.comp_def]
    · simp [outcomeAcks, healthAcks, rule_healthAck, ActiveResource.fields, Function.comp_def]
  have hr : (removeAcks removedAt a.payload).map (fun ack => ack.rule.resourceId) =
      a.payload.removes.map ResourceInstruction.resourceId := by
    simp [removeAcks, makeAck, ResourceInstruction.fields, Function.comp_def]
  rw [applyAcks, map_append, map_append, ho, hr, ackedIds]

lemma removeAcks_not_protected (h : ack ∈ removeAcks now pl) : ack.status ≠ .protected := by
  obtain ⟨rm, -, rfl⟩ := mem_map.1 h
  simp [makeAck]

lemma mem_healthAcks {rs} (h : ack ∈ healthAcks answers now rs) :
    ∃ r ∈ rs, ack.rule = r.fields := by
  obtain ⟨r, hr, rfl⟩ := mem_map.1 h
  exact ⟨r, hr, rule_healthAck _ _ _⟩

lemma inForce_of_applyAcks (hh : ∀ ack ∈ a.hostAcks, ack.status ≠ .protected)
    (h : ack ∈ applyAcks s a out answers removedAt) (hp : ack.status = .protected) :
    InForce s ack.rule out := by
  rcases mem_append.1 h with h | h
  · rcases mem_append.1 h with h | h
    · exact absurd hp (hh ack h)
    · rcases out with err | _
      · obtain ⟨r, -, rfl⟩ := mem_map.1 h
        cases hp
      · obtain ⟨r, hr, hrl⟩ := mem_healthAcks h
        exact ⟨r, hr, hrl ▸ hasRule_fields r⟩
  · exact absurd hp (removeAcks_not_protected h)

/-! ### The steps -/

lemma admitResourceSet_acks (s : SharedResourceState) (gen floor : ℕ) :
    (admitResourceSet s gen floor).1.acks = s.acks := by
  unfold admitResourceSet
  split
  · rfl
  · split
    · split
      · rfl
      · split <;> rfl
    · rfl

lemma Inv.of_sent (hi : Inv s) (sent : List ResourceAck) : Inv { s with sent := sent } :=
  { hi with }

lemma Inv.of_acks (hi : Inv s) {fresh}
    (h : ∀ ack ∈ fresh, ack.status = .protected → Current s ack.rule) :
    Inv { s with res := { s.res with acks := storeAcks s.res.acks fresh } } := by
  refine { hi with queued := fun ack ha hp => ?_ }
  rcases mem_storeAcks ha with hf | ⟨hold, -⟩
  · exact h ack hf hp
  · exact hi.queued ack hold hp

lemma inv_snapshot {lanIp} (hi : Inv s) (hs : step s (.snapshot pl lanIp now sends) = some s') :
    Inv s' ∧ ∀ ack ∈ s'.sent, ack.status ≠ .protected := by
  rcases hap : s.applying with _ | a
  · have hg : s.applying.isSome = false := by rw [hap]; rfl
    simp only [step, hg, Bool.false_eq_true, if_false] at hs
    split at hs
    · cases hs
      exact ⟨hi.of_sent [], by simp⟩
    · cases hs
      refine ⟨(hi.of_acks fun ack hack hp => ?_).of_sent _, fun ack hack => ?_⟩
      · exact absurd hp (removeAcks_not_protected (mem_of_mem_take hack))
      · exact removeAcks_not_protected (mem_of_mem_take hack)
    · cases hs
      refine ⟨⟨hi.chain, by simp, fun ack hack hp => ?_,
        fun rs hr r hm => ?_, fun a ha ack hack => ?_⟩, by simp⟩
      · -- what was queued before the new set is committed, as the shield was idle
        have hold : ack ∈ s.res.acks := by
          have hac := admitResourceSet_acks s.res pl.generation s.floor
          exact hac ▸ hack
        exact .inl ((hi.queued ack hold hp).committed hap)
      · exact .inl ((hi.round rs hr r hm).committed hap)
      · cases ha
        obtain ⟨res, -, rfl⟩ := mem_map.1 hack
        simp [makeAck]
  · simp [step, hap] at hs

lemma committed_of_inForce (h : InForce s rule out) (acks : List ResourceAck) (sends : ℕ) :
    RuleCommitted (sendAcks (finish s a out) acks sends) rule := by
  rcases out with err | _
  · exact h
  · obtain ⟨r, hr, hrl⟩ := h
    exact ⟨s.res.active, rfl, r, hr, hrl⟩

lemma inv_nftables (hi : Inv s) (ha : s.applying = some a)
    (hok : ChecksCommitted s (.nftables out answers removedAt sends)) :
    Inv (sendAcks (finish s a out) (applyAcks s a out answers removedAt) sends) := by
  obtain ⟨hq, hrn⟩ := hok a ha
  constructor
  · rcases out with err | _
    · exact hi.chain
    · rintro set hset
      cases hset
      exact commit_buildProtectRuleset _ _
  · rcases out with err | _
    · intro _ hf
      cases hf
    · intro _ _ rule ⟨r, hr, hrl⟩
      exact ⟨s.res.active, rfl, r, hr, hrl⟩
  · intro ack hack hp
    refine .inl (committed_of_inForce ?_ _ _)
    have hold : ack ∈
        storeAcks s.res.acks ((applyAcks s a out answers removedAt).take (sends + 1)) := by
      rcases out with err | _ <;> exact hack
    rcases mem_storeAcks hold with hn | ⟨hold, hne⟩
    · exact inForce_of_applyAcks (hi.hostAcks a ha) (mem_of_mem_take hn) hp
    · refine hq ack hold hp fun hid => ?_
      rw [← applyAcks_ids s a out answers removedAt, ← map_take] at hid
      obtain ⟨f, hf, hfid⟩ := mem_map.1 hid
      exact hne f hf hfid.symm
  · intro resources hr r hm
    refine .inl (committed_of_inForce (hrn resources ?_ r hm) _ _)
    rcases out with err | _ <;> exact hr
  · intro b hb
    rcases out with err | _ <;> cases hb

/-- **One step** keeps the invariant, and what it sends as protected is committed. -/
lemma inv_step {a} (hi : Inv s) (hok : ChecksCommitted s a) (hs : step s a = some s') :
    Inv s' ∧ ∀ ack ∈ s'.sent, ack.status = .protected → RuleCommitted s' ack.rule := by
  cases a with
  | snapshot pl lanIp now sends =>
    obtain ⟨hi', hsn⟩ := inv_snapshot hi hs
    exact ⟨hi', fun ack hack hp => absurd hp (hsn ack hack)⟩
  | nftables out answers removedAt sends =>
    rcases ha : s.applying with _ | a
    · simp [step, ha] at hs
    · simp only [step, ha, Option.some.injEq] at hs
      subst hs
      refine ⟨inv_nftables hi ha hok, fun ack hack hp => committed_of_inForce ?_ _ _⟩
      exact inForce_of_applyAcks (hi.hostAcks a ha) (mem_of_mem_take hack) hp
  | healthRead =>
    simp only [step] at hs
    split at hs <;> cases hs
    refine ⟨{ hi with round := fun resources hr r hm => ?_ }, by simp⟩
    cases hr
    have hact : RuleActive s r.fields := ⟨r, hm, hasRule_fields r⟩
    rcases hap : s.applying with _ | a
    · have hf : s.failed = none := hok.resolve_left (by simp [hap])
      exact .inl (hi.active hap hf _ hact)
    · exact .inr ⟨by simp, hact⟩
  | healthStore answers now =>
    rcases hrn : s.round with _ | resources
    · simp [step, hrn] at hs
    · simp only [step, hrn, Option.some.injEq] at hs
      subst hs
      have hfr : ∀ ack ∈ healthAcks answers now resources, ack.status = .protected →
          Current s ack.rule := by
        intro ack hack _
        obtain ⟨r, hr, hrl⟩ := mem_healthAcks hack
        exact hrl ▸ hi.round resources hrn r hr
      have hi' := hi.of_acks hfr
      exact ⟨{ hi' with round := by simp }, by simp⟩
  | drain sends =>
    rcases ha : s.applying with _ | a
    · have hg : s.applying.isSome = false := by rw [ha]; rfl
      simp only [step, hg, Bool.false_eq_true, if_false, Option.some.injEq] at hs
      subst hs
      refine ⟨{ hi with queued := by simp }, fun ack hack hp => ?_⟩
      exact (hi.queued ack (mem_of_mem_take hack) hp).committed ha
    · simp [step, ha] at hs

/-! ### A generation that failed -/

/-- The generation recorded last is the one under way, or the one that failed. -/
structure Recorded (s : State) : Prop where
  applying : ∀ a, s.applying = some a → s.res.lastGeneration = some a.payload.generation
  failed : s.applying = none → ∀ g, s.failed = some g → s.res.lastGeneration = some g

lemma recorded_step {a} (h : Recorded s) (hs : step s a = some s') : Recorded s' := by
  obtain ⟨ha, hf⟩ := h
  cases a with
  | snapshot pl lanIp now sends =>
    simp only [step] at hs
    split at hs
    · cases hs
    · split at hs
      · cases hs
        exact ⟨ha, hf⟩
      · cases hs
        exact ⟨ha, hf⟩
      · next hadm =>
        cases hs
        refine ⟨fun b hb => ?_, by simp⟩
        cases hb
        exact (admitResourceSet_apply hadm).1
  | nftables out answers removedAt sends =>
    rcases hap : s.applying with _ | b
    · simp [step, hap] at hs
    · simp only [step, hap, Option.some.injEq] at hs
      subst hs
      rcases out with err | _
      · refine ⟨nofun, fun _ g hg => ?_⟩
        cases hg
        exact ha b hap
      · exact ⟨nofun, fun _ g hg => by cases hg⟩
  | healthRead | drain =>
    obtain ⟨-, ⟨⟩⟩ := Option.ite_none_left_eq_some.1 hs
    exact ⟨ha, hf⟩
  | healthStore answers now =>
    rcases hrn : s.round with _ | resources
    · simp [step, hrn] at hs
    · simp only [step, hrn, Option.some.injEq] at hs
      subst hs
      exact ⟨ha, hf⟩

lemma not_failedReapplied {a} (h : Recorded s) (hs : step s a = some s') (hr : Redelivers s a) :
    ¬ FailedReapplied s a s' := by
  cases a with
  | snapshot pl lanIp now sends =>
    intro hre
    have hsome := hre pl lanIp now sends rfl hr
    simp only [step] at hs
    split at hs
    · cases hs
    · next hap =>
      have hap : s.applying = none := by simpa using hap
      split at hs
      · cases hs
        simp [hap] at hsome
      · cases hs
        simp [sendAcks, hap] at hsome
      · next hadm =>
        have hlt := (admitResourceSet_apply hadm).2.2 _ (h.failed hap _ hr)
        exact absurd hlt (lt_irrefl _)
  | _ => exact hr.elim

/-- **Every run.** If no health check begins between a transaction that failed and the next
application, and no stale ack is left when a transaction ends, whatever the shield acks as protected
is in the ruleset that was committed last. In no run is a set whose transaction failed applied when
its generation arrives again. -/
theorem protected_enforced_of_checksCommitted (floor : ℕ) (chain : List Rule) (acts : List Action) :
    (Meets step ChecksCommitted (start floor chain) acts →
      Always step ProtectedEnforced (start floor chain) acts) ∧
    Always step (fun s a s' => Redelivers s a → ¬ FailedReapplied s a s') (start floor chain)
      acts := by
  constructor
  · refine always_of_meets (I := Inv) (fun s a s' hi hst hs => (inv_step hi hst hs).1)
      (fun s a s' hi hst hs ack ha hp => ?_) (inv_start floor chain)
    obtain ⟨hi', hsn⟩ := inv_step hi hst hs
    exact hi'.enforced (hsn ack ha hp)
  · exact always_of_inv (I := Recorded) (fun _ _ _ h hs => recorded_step h hs)
      (fun _ _ _ h hs => not_failedReapplied h hs) ⟨nofun, nofun⟩

/-! ### A set applied, and a set that the kernel refuses -/

def webSet (generation : ℕ) : ResourceSetPayload :=
  ⟨"ws.example", "sh-1", generation, [⟨"res-1", "127.0.0.1", "tcp", 8080, 8080⟩], []⟩

def answersAll : SocketAddr → Bool := fun _ => true

/-- The set is applied and checked; its next generation fails, arrives again and is not applied; the
one after it is applied and checked, and the acks are drained. -/
def failsOnce : List Action :=
  [.snapshot (webSet 1) none 100 10, .nftables (.ok ()) answersAll 100 10, .healthRead,
    .healthStore answersAll 130, .snapshot (webSet 2) none 160 10,
    .nftables (.error "Device or resource busy") answersAll 160 10, .drain 10,
    .snapshot (webSet 2) none 190 10, .snapshot (webSet 3) none 200 10,
    .nftables (.ok ()) answersAll 200 10, .healthRead, .healthStore answersAll 230, .drain 10]

/-- The transaction fails, the health check finds the port open, the acks are drained, and the
same set arrives again. -/
def refusedByKernel : List Action :=
  [.snapshot (webSet 1) none 100 10, .nftables (.error "Device or resource busy") answersAll 100 10,
    .healthRead, .healthStore answersAll 130, .drain 10, .snapshot (webSet 1) none 160 10]

theorem protected_enforced_failsOnce :
    Meets step ChecksCommitted (start 0 []) failsOnce ∧
      Always step ProtectedEnforced (start 0 []) failsOnce ∧
      ∃ u u', exec step (start 0 []) (failsOnce.take 7) = some u ∧
        step u (.snapshot (webSet 2) none 190 10) = some u' ∧
        ¬ FailedReapplied u (.snapshot (webSet 2) none 190 10) u' := by
  have hm : Meets step ChecksCommitted (start 0 []) failsOnce := by decide +kernel
  obtain ⟨hp, hf⟩ := protected_enforced_of_checksCommitted 0 [] failsOnce
  refine ⟨hm, hp hm, _, _, rfl, rfl, ?_⟩
  exact hf (failsOnce.take 7) _ (failsOnce.drop 8) _ _ rfl rfl rfl rfl

/-- The drain sends a `protected` for a rule that no committed ruleset has, and the set is not
applied again. -/
theorem acked_though_refused :
    ¬ Always step ProtectedEnforced (start 0 []) refusedByKernel ∧
      ¬ Always step FailedReapplied (start 0 []) refusedByKernel := by
  constructor
  · intro h
    have hd := h (refusedByKernel.take 4) (.drain 10) _ _ _ rfl rfl rfl
    obtain ⟨set, hs, -⟩ := hd _ (mem_singleton.2 rfl) rfl
    cases hs
  · intro h
    have ha := h (refusedByKernel.take 5) (.snapshot (webSet 1) none 160 10) [] _ _ rfl rfl rfl
      (webSet 1) none 160 10 rfl rfl
    cases ha

end Zecurity.ShieldProtection
