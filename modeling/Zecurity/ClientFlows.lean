import Zecurity.ClientAcl

/-!
The client's flows and the connectors that carry them (`client/src/net_stack.rs`,
`relay_tcp_to_quic_ctl` and `FlowTable::close_connector_flows`; `client/src/daemon.rs`,
`close_revoked_connector_flows`), beside the list of `Zecurity.ClientAcl`.

A relay task looks at the blocked set before it opens a tunnel and again after the handshake, and
then records the connector. The poll loop closes the flows whose connector is recorded, when a tick
asks it to. A restart of the tunnel is a loop that ends and another that starts: it may come at any
time, and so may the end of a flow.
-/

namespace Zecurity.ClientFlows

open Acl FiniteMap Option Runs
open ClientAcl hiding State Action step initial Inv inv_step inv_initial

abbrev FlowId := ℕ
abbrev LoopId := ℕ

/-- How far the relay task of a flow has come. -/
inductive Relay
  | choosing (transports : List String)
  | opening (connectorId : String) (rest : List String)
  /-- it has looked at the blocked set again, and is about to record the connector -/
  | rechecked (connectorId : String)
  | carried (connectorId : String)
  deriving DecidableEq

/-- The connector that has passed the second look. -/
def Relay.passed : Relay → Option String
  | .rechecked connectorId | .carried connectorId => some connectorId
  | .choosing _ | .opening .. => none

/-- The recorded connector is one of these. -/
def Relay.carriedBy (connectorIds : List String) : Relay → Bool
  | .carried connectorId => decide (connectorId ∈ connectorIds)
  | _ => false

/-- A tick's command to the poll loop. -/
inductive Close
  | sent
  | acked
  | gaveUp
  deriving DecidableEq

structure State where
  acl : ClientAcl.State
  flows : Map FlowId Relay
  /-- the poll loop that runs, and the one that the tunnel's handle belongs to -/
  loop : Option LoopId
  handle : Option LoopId
  loops : ℕ
  /-- the loop's `CloseConnectorFlows` commands, with the call that waits for each -/
  commands : List (CallId × List String)
  closes : Map CallId Close

def initial (first : AclSnapshot) : State where
  acl := ClientAcl.initial first
  flows := ∅
  loop := none
  handle := none
  loops := 0
  commands := []
  closes := ∅

inductive Action
  | acl (a : ClientAcl.Action)
  | accept (f : FlowId) (transports : List String)
  | check (f : FlowId)
  /-- the tunnel or its handshake has failed, or the shield is not attached -/
  | openFailed (f : FlowId)
  | recheck (f : FlowId)
  | select (f : FlowId)
  | endFlow (f : FlowId)
  | startLoop
  | publishHandle
  | takeHandle
  | abortLoop
  /-- `close_revoked_connector_flows`, up to the wait for the acknowledgement -/
  | closeFlows (c : CallId)
  | applyClose
  | giveUp (c : CallId)

def State.setFlow (s : State) (f : FlowId) (relay : Relay) : State :=
  { s with flows := s.flows.insert f relay }

def State.setClose (s : State) (c : CallId) (close : Close) : State :=
  { s with closes := s.closes.insert c close }

/-- A tick that has changed the list returns after it has closed flows. -/
def mayReturn (s : State) : ClientAcl.Action → Bool
  | .return_ c => (s.acl.calls.lookup c).all fun call => !call.closing ||
      s.closes.lookup c = some .acked || s.closes.lookup c = some .gaveUp
  | _ => true

def step (s : State) : Action → Option State
  | .acl a =>
    if mayReturn s a then (ClientAcl.step s.acl a).map fun acl => { s with acl := acl } else none
  | .accept f transports =>
    if s.loop.isSome ∧ s.flows.lookup f = none then some (s.setFlow f (.choosing transports))
    else none
  | .check f =>
    match s.flows.lookup f with
    | some (.choosing (connectorId :: rest)) =>
      some (s.setFlow f
        (if connectorId ∈ s.acl.blocked then .choosing rest else .opening connectorId rest))
    | _ => none
  | .openFailed f =>
    match s.flows.lookup f with
    | some (.opening _ rest) => some (s.setFlow f (.choosing rest))
    | _ => none
  | .recheck f =>
    match s.flows.lookup f with
    | some (.opening connectorId rest) =>
      some (s.setFlow f
        (if connectorId ∈ s.acl.blocked then .choosing rest else .rechecked connectorId))
    | _ => none
  | .select f =>
    match s.flows.lookup f with
    | some (.rechecked connectorId) => some (s.setFlow f (.carried connectorId))
    | _ => none
  | .endFlow f => some { s with flows := s.flows.erase f }
  | .startLoop =>
    if s.loop = none then
      some { s with loop := some s.loops, loops := s.loops + 1, flows := ∅, commands := [] }
    else none
  | .publishHandle => if s.loop.isSome then some { s with handle := s.loop } else none
  | .takeHandle => some { s with handle := none }
  | .abortLoop => some { s with loop := none, flows := ∅, commands := [] }
  | .closeFlows c =>
    match s.acl.calls.lookup c with
    | some ⟨.tick, .answered true _⟩ =>
      if s.closes.lookup c = none then
        if s.handle = none ∨ s.acl.blocked = [] then some (s.setClose c .acked)
        else if s.handle = s.loop then
          some { s.setClose c .sent with commands := s.commands ++ [(c, s.acl.blocked)] }
        else some (s.setClose c .gaveUp)
      else none
    | _ => none
  | .applyClose =>
    match s.commands with
    | (c, connectorIds) :: rest =>
      some { s with
        flows := retain s.flows fun _ relay => !relay.carriedBy connectorIds
        commands := rest
        closes := if s.closes.lookup c = some .sent then s.closes.insert c .acked else s.closes }
    | [] => none
  | .giveUp c => if s.closes.lookup c = some .sent then some (s.setClose c .gaveUp) else none

/-! ### What is to hold -/

/-- Every list stored from the given one on has the connector as revoked. -/
def ListedSince (acl : ClientAcl.State) (n : ℕ) (connectorId : String) : Prop :=
  ∀ e ∈ acl.log, n ≤ e.1 → connectorId ∈ revokedConnectorIds e.2

/-- When the call that stored a list has returned, and the loop has acknowledged, no connector
revoked there carries a flow, as long as no list without it is stored. -/
def RevokedIdle (s : State) : Prop :=
  ∀ c caller n, s.acl.calls.lookup c = some ⟨caller, .returned (some n)⟩ →
    s.closes.lookup c ≠ some .gaveUp → ∀ connectorId, ListedSince s.acl n connectorId →
      ∀ f, s.flows.lookup f ≠ some (.carried connectorId)

def Unused (s : State) (connectorId : String) : Prop :=
  All s.flows fun relay => relay.passed ≠ some connectorId

instance (s : State) (connectorId : String) : Decidable (Unused s connectorId) :=
  inferInstanceAs (Decidable (All _ _))

def handledCall : ClientAcl.Action → Option CallId
  | .handle c _ => some c
  | _ => none

/-- **The condition.** A list that revokes a connector in use is stored by a tick to which it is
new; no relay is between its second look at a connector and the record of it when a command
closes the connector's flows; and no loop runs without its handle when a tick looks for it. -/
def Guarded (s : State) : Action → Prop
  | .acl a => ∀ c ∈ handledCall a, ∀ call ∈ s.acl.calls.lookup c, ∀ snapshot ∈ call.snapshot,
      call.changes = true ∨ ∀ connectorId ∈ revokedConnectorIds snapshot, Unused s connectorId
  | .applyClose => ∀ command ∈ s.commands.head?, ∀ connectorId ∈ command.2,
      All s.flows fun relay => relay ≠ .rechecked connectorId
  | .closeFlows _ => s.handle = none → s.loop = none
  | _ => True

instance (s : State) (a : Action) : Decidable (Guarded s a) := by
  cases a <;> unfold Guarded <;> infer_instance

/-! ### The flows -/

variable {a : Action} {cid : String} {acl : ClientAcl.State} {n : ℕ} {c : CallId}
  {call : Call}

lemma unused_step {s s'} (hs : step s a = some s') (hb : cid ∈ s.acl.blocked)
    (h : Unused s cid) : Unused s' cid := by
  cases a <;> dsimp only [step] at hs
  case acl a =>
    obtain ⟨-, acl, -, rfl⟩ := ite_map_eq_some.1 hs
    exact h
  case accept f transports =>
    obtain ⟨-, rfl⟩ := ite_some_none_eq_some.1 hs
    exact h.insert (by simp [Relay.passed])
  case check f =>
    split at hs <;> cases hs
    refine h.insert ?_
    split <;> simp [Relay.passed]
  case openFailed f =>
    split at hs <;> cases hs
    exact h.insert (by simp [Relay.passed])
  case recheck f =>
    split at hs <;> cases hs
    next other rest _ =>
      refine h.insert ?_
      split
      · simp [Relay.passed]
      · next hf =>
        -- the blocked set is what the second look reads
        rintro heq
        cases heq
        exact hf hb
  case select f =>
    split at hs <;> cases hs
    next other hr =>
      have ho := h f _ hr
      exact h.insert ho
  case endFlow f =>
    cases hs
    exact forall_lookup_erase h
  case startLoop =>
    obtain ⟨-, rfl⟩ := ite_some_none_eq_some.1 hs
    exact .empty
  case abortLoop =>
    cases hs
    exact .empty
  case publishHandle | giveUp =>
    obtain ⟨-, rfl⟩ := ite_some_none_eq_some.1 hs
    exact h
  case takeHandle =>
    cases hs
    exact h
  case closeFlows c =>
    repeat' split at hs
    all_goals cases hs
    all_goals exact h
  case applyClose =>
    split at hs <;> cases hs
    exact fun f relay hr => h f relay (lookup_retain_eq_some.1 hr).1

/-! ### The calls -/

/-- No connector that all lists from the given one on revoke is in use. -/
def Clear (s : State) (n : ℕ) : Prop :=
  ∀ connectorId, ListedSince s.acl n connectorId → Unused s connectorId

structure Inv (s : State) : Prop where
  latest : ∀ n connectorId, n ≤ s.acl.stores → 1 ≤ n → ListedSince s.acl n connectorId →
    connectorId ∈ s.acl.blocked
  noLoop : s.loop = none → All s.flows fun _ => False
  numbers : ∀ c call, s.acl.calls.lookup c = some call → ∀ n ∈ call.phase.stored,
    1 ≤ n ∧ n ≤ s.acl.stores
  calls : ∀ c call, s.acl.calls.lookup c = some call → ∀ n ∈ call.phase.stored,
    call.closing = true ∨ s.closes.lookup c = some .gaveUp ∨ Clear s n
  closes : ∀ c close, s.closes.lookup c = some close → ∃ call,
    s.acl.calls.lookup c = some call ∧ call.phase.finished = true ∧
      (close = .acked → ∀ n ∈ call.phase.stored, Clear s n)
  commands : ∀ command ∈ s.commands, ∃ call, s.acl.calls.lookup command.1 = some call ∧
    call.phase.finished = true ∧ ∀ n ∈ call.phase.stored, ∀ connectorId,
      ListedSince s.acl n connectorId → connectorId ∈ command.2

lemma listedSince_step {acl' a} (hs : ClientAcl.step acl a = some acl')
    (h : ListedSince acl' n cid) : ListedSince acl n cid := by
  intro e he
  rcases store_step hs with ⟨hl, -, -⟩ | ⟨_, hl, -, -⟩
  · exact h e (hl ▸ he)
  · exact h e (hl ▸ List.mem_cons_of_mem _ he)

lemma Inv.clear_step {s s'} (h : Inv s) (hs : step s a = some s')
    (hl : ∀ cid, ListedSince s'.acl n cid → ListedSince s.acl n cid)
    (hn : 1 ≤ n ∧ n ≤ s.acl.stores) (hc : Clear s n) : Clear s' n := by
  intro cid hid
  have hold := hl cid hid
  exact unused_step hs (h.latest n cid hn.2 hn.1 hold) (hc cid hold)

/-! ### One step -/

section Step

variable {s s' : State} (h : Inv s)

include h

lemma Inv.of_acl_eq (hs : step s a = some s') (hacl : s'.acl = s.acl)
    (hl : s'.loop = none → All s'.flows fun _ => False)
    (hgu : ∀ c, s.closes.lookup c = some .gaveUp → s'.closes.lookup c = some .gaveUp)
    (hcls : ∀ c close, s'.closes.lookup c = some close →
      s.closes.lookup c = some close ∨ ∃ call, s.acl.calls.lookup c = some call ∧
        call.phase.finished = true ∧ (close = .acked → ∀ n ∈ call.phase.stored, Clear s' n))
    (hcm : ∀ cmd ∈ s'.commands, cmd ∈ s.commands ∨
      ∃ call, s.acl.calls.lookup cmd.1 = some call ∧ call.phase.finished = true ∧
        ∀ n ∈ call.phase.stored, ∀ cid, ListedSince s.acl n cid →
          cid ∈ cmd.2) : Inv s' := by
  have hc : ∀ c call, s.acl.calls.lookup c = some call → ∀ n ∈ call.phase.stored,
      Clear s n → Clear s' n := fun c call hcll n hn =>
    h.clear_step hs (fun _ => hacl ▸ id) (h.numbers c call hcll n hn)
  constructor
  · rw [hacl]
    exact h.latest
  · exact hl
  · rw [hacl]
    exact h.numbers
  · rw [hacl]
    intro c call hcll n hn
    rcases h.calls c call hcll n hn with hcl | hg | hi
    · exact .inl hcl
    · exact .inr (.inl (hgu c hg))
    · exact .inr (.inr (hc c call hcll n hn hi))
  · rw [hacl]
    intro c close hclo
    rcases hcls c close hclo with hold | hnew
    · obtain ⟨call, hcll, hf, ha⟩ := h.closes c close hold
      exact ⟨call, hcll, hf, fun heq n hn => hc c call hcll n hn (ha heq n hn)⟩
    · exact hnew
  · rw [hacl]
    intro cmd hm
    rcases hcm cmd hm with hold | hnew
    · exact h.commands cmd hold
    · exact hnew

lemma Inv.of_flows (hs : step s a = some s') (ha : s'.acl = s.acl)
    (hl : s'.loop = none → All s'.flows fun _ => False) (hc : s'.closes = s.closes)
    (hcm : ∀ cmd ∈ s'.commands, cmd ∈ s.commands) : Inv s' :=
  h.of_acl_eq hs ha hl (fun _ hg => hc ▸ hg)
    (fun _ _ hcl => .inl (hc ▸ hcl)) fun cmd hm => .inl (hcm cmd hm)

lemma Inv.setFlow {f relay relay'} (hr : s.flows.lookup f = some relay)
    (hs : step s a = some (s.setFlow f relay')) : Inv (s.setFlow f relay') :=
  h.of_flows hs rfl (fun hn => (h.noLoop hn f relay hr).elim) rfl fun _ => id

lemma Inv.of_close (hs : step s a = some s') (ha : s'.acl = s.acl)
    (hlp : s'.loop = none → All s'.flows fun _ => False)
    (hcll : s.acl.calls.lookup c = some call) (hf : call.phase.finished = true)
    (hn : s.closes.lookup c ≠ some .gaveUp) {close : Close}
    (hc : s'.closes = s.closes.insert c close)
    (hclr : close = .acked → ∀ n ∈ call.phase.stored, Clear s' n)
    (hcm : ∀ cmd ∈ s'.commands, cmd ∈ s.commands ∨
      cmd.1 = c ∧ ∀ n ∈ call.phase.stored, ∀ cid, ListedSince s.acl n cid →
        cid ∈ cmd.2) : Inv s' := by
  refine h.of_acl_eq hs ha hlp (fun c' hg => ?_) (fun c' close' hcl => ?_) fun cmd hm => ?_
  · rw [hc, AList.lookup_insert_ne]
    · exact hg
    · rintro rfl
      exact hn hg
  · rw [hc] at hcl
    rcases lookup_insert_eq_some.1 hcl with ⟨rfl, rfl⟩ | ⟨-, hold⟩
    · exact .inr ⟨call, hcll, hf, hclr⟩
    · exact .inl hold
  · rcases hcm cmd hm with hold | ⟨rfl, hl⟩
    · exact .inl hold
    · exact .inr ⟨call, hcll, hf, hl⟩

lemma inv_closeFlows (hok : Guarded s (.closeFlows c)) (hs : step s (.closeFlows c) = some s') :
    Inv s' := by
  have heq := hs
  dsimp only [step] at heq
  split at heq
  · next old hc =>
    obtain ⟨hf, heq⟩ := ite_none_right_eq_some.1 heq
    have hnot : s.closes.lookup c ≠ some .gaveUp := by simp [hf]
    have hl : ∀ n ∈ old, ∀ cid, ListedSince s.acl n cid → cid ∈ s.acl.blocked := by
      intro n hn cid hid
      obtain ⟨hp, hle⟩ := h.numbers c _ hc n hn
      exact h.latest n cid hle hp hid
    split at heq
    · next hnt =>
      cases heq
      refine h.of_close hs rfl h.noLoop hc rfl hnot rfl (fun _ n hn cid hid => ?_) fun _ => .inl
      rcases hnt with hh | hb
      · exact fun f relay hr => (h.noLoop (hok hh) f relay hr).elim
      · have hm := hl n hn cid hid
        rw [hb] at hm
        cases hm
    · split at heq
      · cases heq
        refine h.of_close hs rfl h.noLoop hc rfl hnot rfl (by simp) fun cmd hm => ?_
        rcases List.mem_append.1 hm with hold | hnew
        · exact .inl hold
        · obtain rfl := List.mem_singleton.1 hnew
          exact .inr ⟨rfl, hl⟩
      · cases heq
        exact h.of_close hs rfl h.noLoop hc rfl hnot rfl (by simp) fun _ => .inl
  · cases heq

lemma inv_applyClose (hok : Guarded s .applyClose) (hs : step s .applyClose = some s') :
    Inv s' := by
  have heq := hs
  dsimp only [step] at heq
  split at heq <;> cases heq
  next c cids rest hq =>
    have hlp : s.loop = none → All (retain s.flows fun _ relay =>
        !relay.carriedBy cids) fun _ => False := fun hnn f relay hr =>
      h.noLoop hnn f relay (lookup_retain_eq_some.1 hr).1
    have hc : ∀ cmd ∈ rest, cmd ∈ s.commands := fun cmd hm =>
      hq ▸ List.mem_cons_of_mem _ hm
    by_cases hsn : s.closes.lookup c = some .sent
    · obtain ⟨call, hcl, hf, hl⟩ := h.commands (c, cids) (hq ▸ List.mem_cons_self)
      refine h.of_close hs rfl hlp hcl hf (by simp [hsn]) (if_pos hsn) ?_
        fun cmd hm => .inl (hc cmd hm)
      intro _ n hn cid hid
      have hm := hl n hn cid hid
      -- After a command no relay has passed with one of its connectors, if none is about to
      -- record it.
      have h := hok (c, cids) (by simp [hq]) cid hm
      intro f relay hr hp
      obtain ⟨hold, hk⟩ := lookup_retain_eq_some.1 hr
      cases relay with
      | choosing | opening => cases hp
      | rechecked other =>
        cases hp
        exact h f _ hold rfl
      | carried other =>
        cases hp
        simp [Relay.carriedBy, hm] at hk
    · exact h.of_flows hs rfl hlp (if_neg hsn) hc

lemma Inv.closed_of_mayReturn (hcll : s.acl.calls.lookup c = some call) (hc : call.closing = true)
    (hm : mayReturn s (.return_ c) = true) (hn : n ∈ call.phase.stored) :
    s.closes.lookup c = some .gaveUp ∨ Clear s n := by
  simp only [mayReturn, hcll, all_some, hc, Bool.not_true, Bool.false_or,
    Bool.or_eq_true, decide_eq_true_eq] at hm
  rcases hm with ha | hg
  · obtain ⟨other, ho, -, hcl⟩ := h.closes c .acked ha
    cases hcll.symm.trans ho
    exact .inr (hcl rfl n hn)
  · exact .inl hg

lemma Inv.clear_acl {a} (hs : step s (.acl a) = some { s with acl := acl })
    (ha : ClientAcl.step s.acl a = some acl) (hcl : s.acl.calls.lookup c = some call)
    (hn : n ∈ call.phase.stored) (hc : Clear s n) : Clear { s with acl := acl } n :=
  h.clear_step hs (fun _ => listedSince_step ha) (h.numbers c call hcl n hn) hc

lemma Inv.calls_acl {a} (hok : Guarded s (.acl a)) (hm : mayReturn s a = true)
    (ha : ClientAcl.step s.acl a = some acl) (hs : step s (.acl a) = some { s with acl := acl })
    {call'} (hc' : acl.calls.lookup c = some call') (hn : n ∈ call'.phase.stored) :
    call'.closing = true ∨ s.closes.lookup c = some .gaveUp ∨ Clear { s with acl := acl } n := by
  rcases (moves_step c ha).of_stored hc' hn with ⟨call, hcll, hold, hcl⟩ | ⟨rfl, -, hcls | hh⟩
  · rcases h.calls c call hcll n hold with hw | hrs
    · rcases hcl hw with hst | rfl
      · exact .inl hst
      · -- the tick returns, and has closed flows
        exact .inr ((h.closed_of_mayReturn hcll hw hm hold).imp_right (h.clear_acl hs ha hcll hold))
    · exact .inr (hrs.imp_right (h.clear_acl hs ha hcll hold))
  · exact .inl hcls
  · -- no tick, so nothing is in use that the list revokes
    obtain ⟨call, now, snapshot, hcll, rfl, hsn, hu, hl⟩ := hh
    refine .inr (.inr fun cid hid => ?_)
    have hr := hid (s.acl.stores + 1, snapshot) (hl ▸ List.mem_cons_self) le_rfl
    rcases hok c rfl call hcll snapshot hsn with hc | hun
    · simp [hu] at hc
    · exact hun cid hr

lemma inv_acl {a} (hok : Guarded s (.acl a)) (hs : step s (.acl a) = some s') : Inv s' := by
  obtain ⟨hmay, acl, hacl, rfl⟩ := ite_map_eq_some.1 hs
  refine ⟨?_, h.noLoop, ?_, ?_, ?_, ?_⟩
  · intro n cid hle hp hid
    rcases store_step hacl with ⟨-, hst, hb⟩ | ⟨snapshot, hl, hst, hb⟩
    · have hold := h.latest n cid (hst ▸ hle) hp (listedSince_step hacl hid)
      exact hb ▸ hold
    · have hnew := hid (s.acl.stores + 1, snapshot) (hl ▸ List.mem_cons_self) (hst ▸ hle)
      exact hb ▸ hnew
  · intro c call' hc' n hn
    rcases (moves_step c hacl).of_stored hc' hn with ⟨call, hcl, hold, -⟩ | ⟨rfl, hst, -⟩
    · have hm : s.acl.stores ≤ acl.stores := by
        rcases store_step hacl with ⟨-, hst, -⟩ | ⟨-, -, hst, -⟩ <;> omega
      exact (h.numbers c call hcl n hold).imp_right fun hle => hle.trans hm
    · exact ⟨Nat.le_add_left 1 _, hst.ge⟩
  · exact fun c call' hc' n hn => h.calls_acl hok hmay hacl hs hc' hn
  · intro c close hc
    obtain ⟨call, hcl, hf, ha⟩ := h.closes c close hc
    obtain ⟨call', hc', hf', hstr⟩ := (moves_step c hacl).finished hcl hf
    refine ⟨call', hc', hf', fun heq n hn => ?_⟩
    rw [hstr] at hn
    exact h.clear_acl hs hacl hcl hn (ha heq n hn)
  · intro cmd hmem
    obtain ⟨call, hcl, hf, hi⟩ := h.commands cmd hmem
    obtain ⟨call', hc', hf', hstr⟩ := (moves_step cmd.1 hacl).finished hcl hf
    refine ⟨call', hc', hf', fun n hn cid hid => ?_⟩
    rw [hstr] at hn
    exact hi n hn cid (listedSince_step hacl hid)

end Step

lemma inv_step (s : State) (a : Action) (s' : State) (h : Inv s) (hok : Guarded s a)
    (hs : step s a = some s') : Inv s' := by
  cases a with
  | acl a => exact inv_acl h hok hs
  | accept f trs =>
    obtain ⟨⟨hl, -⟩, rfl⟩ := ite_some_none_eq_some.1 hs
    refine h.of_flows hs rfl (fun hn => ?_) rfl fun _ => id
    rw [show s.loop = none from hn] at hl
    cases hl
  | check f | openFailed f | recheck f | select f =>
    have heq := hs
    dsimp only [step] at heq
    split at heq <;> cases heq
    next hr => exact h.setFlow hr hs
  | endFlow f =>
    have heq := hs
    cases heq
    exact h.of_flows hs rfl (fun hn f' relay hr =>
      h.noLoop hn f' relay (lookup_erase_eq_some.1 hr).1) rfl fun _ => id
  | startLoop =>
    obtain ⟨-, rfl⟩ := ite_some_none_eq_some.1 hs
    exact h.of_flows hs rfl (fun _ => .empty) rfl (by simp)
  | publishHandle =>
    obtain ⟨-, rfl⟩ := ite_some_none_eq_some.1 hs
    exact h.of_flows hs rfl h.noLoop rfl fun _ => id
  | takeHandle =>
    have heq := hs
    cases heq
    exact h.of_flows hs rfl h.noLoop rfl fun _ => id
  | abortLoop =>
    have heq := hs
    cases heq
    exact h.of_flows hs rfl (fun _ => .empty) rfl (by simp)
  | closeFlows c => exact inv_closeFlows h hok hs
  | applyClose => exact inv_applyClose h hok hs
  | giveUp c =>
    obtain ⟨hsn, rfl⟩ := ite_some_none_eq_some.1 hs
    obtain ⟨call, hc, hf, -⟩ := h.closes c .sent hsn
    exact h.of_close hs rfl h.noLoop hc hf (by simp [hsn]) rfl (by simp) fun _ => .inl

lemma inv_initial (first : AclSnapshot) : Inv (initial first) where
  latest n cid hle hp := by
    have hz : n ≤ 0 := hle
    omega
  noLoop _ := .empty
  numbers c call hcl := by cases hcl
  calls c call hcl := by cases hcl
  closes c close hc := by cases hc
  commands command hm := by cases hm

lemma Inv.revokedIdle {s} (h : Inv s) : RevokedIdle s := by
  intro c cr n hcll ha cid hl f hc
  have hcl : Call.closing ⟨cr, .returned (some n)⟩ = false := by cases cr <;> rfl
  rcases h.calls c _ hcll n rfl with hold | hg | hclr
  · simp [hcl] at hold
  · exact ha hg
  · exact hclr cid hl f _ hc rfl

/-- **A revoked connector carries no flow** in a guarded run. -/
theorem revokedIdle_of_guarded (first : AclSnapshot) (acts : List Action) (s : State)
    (hmeets : Meets step Guarded (initial first) acts)
    (hrun : exec step (initial first) acts = some s) : RevokedIdle s :=
  (exec_inv_of_meets inv_step (inv_initial first) hmeets hrun).revokedIdle

/-! ### A flow on a connector that is revoked -/

/-- A loop with a flow that has passed its second look at `conn-a`, which is then revoked. -/
def revokedInUse : List Action :=
  [.startLoop, .publishHandle, .accept 0 ["conn-a"], .check 0, .recheck 0,
    .acl (.publish (revoking 2 ["conn-a"]))]

/-- A call up to the answer to its request for an evaluation. -/
def syncedBy (c : CallId) (caller : Caller) : List Action :=
  [.acl (.begin_ c caller), .acl (.reply c none), .acl (.handle c 10), .acl (.request c),
    .acl .startPass, .acl (.finishPass true)]

/-- The tick closes the flow, and the next one takes another connector. -/
def closedByTick : List Action :=
  revokedInUse ++ [Action.select 0] ++ syncedBy 0 .tick ++
    [Action.closeFlows 0, .applyClose, .acl (.return_ 0), .accept 1 ["conn-a", "conn-b"], .check 1,
      .check 1, .recheck 1, .select 1]

theorem revokedIdle_closedByTick :
    Meets step Guarded (initial (revoking 1 [])) closedByTick ∧
      ∃ s, exec step (initial (revoking 1 [])) closedByTick = some s ∧
        s.acl.calls.lookup 0 = some ⟨.tick, .returned (some 1)⟩ ∧
        s.flows.lookup 0 = none ∧ s.flows.lookup 1 = some (.carried "conn-b") ∧
        RevokedIdle s := by
  have hm : Meets step Guarded (initial (revoking 1 [])) closedByTick := by decide
  exact ⟨hm, _, rfl, rfl, rfl, rfl, revokedIdle_of_guarded _ _ _ hm rfl⟩

/-- A request `Sync` stores the list and returns, and the next tick finds nothing new: the flow
stays on the revoked connector. -/
theorem storedBySync_carried :
    ∃ s, exec step (initial (revoking 1 []))
        (revokedInUse ++ [Action.select 0] ++ syncedBy 0 .sync ++
          [Action.acl (.return_ 0), .acl (.begin_ 1 .tick), .acl (.reply 1 none),
            .acl (.handle 1 70), .acl (.skip 1), .acl (.return_ 1)]) = some s ∧
      s.acl.blocked = ["conn-a"] ∧
      s.acl.calls.lookup 0 = some ⟨.sync, .returned (some 1)⟩ ∧
      s.flows.lookup 0 = some (.carried "conn-a") ∧ ¬ RevokedIdle s := by
  refine ⟨_, rfl, rfl, rfl, rfl, fun h => ?_⟩
  exact h 0 .sync 1 rfl (by decide) "conn-a" (by unfold ListedSince; decide) 0 rfl

/-- The relay records its connector after the tick's command was applied. -/
theorem selectedLate_carried :
    ∃ s, exec step (initial (revoking 1 []))
        (revokedInUse ++ syncedBy 0 .tick ++
          [Action.closeFlows 0, .applyClose, .acl (.return_ 0), .select 0]) = some s ∧
      s.flows.lookup 0 = some (.carried "conn-a") ∧ ¬ RevokedIdle s := by
  refine ⟨_, rfl, rfl, fun h => ?_⟩
  exact h 0 .tick 1 rfl (by decide) "conn-a" (by unfold ListedSince; decide) 0 rfl

end Zecurity.ClientFlows
