import Zecurity.ResourceStore

/-!
Acks of shields against the compiled access-control list
(`controller/internal/resource/store.go`, `RecordAck`;
`controller/internal/policy/store.go`, `ListEnabledRulesWithResources`).

What the compiler makes of one resource depends on that resource's row alone (`compiledEntry_eq`);
an ack changes one row.
-/

namespace Zecurity.ResourceAcks

open AList Checks Compiler FiniteMap List Option ResourceStore

/-! ### The compiled entry -/

def joinedShield (db : Db) (workspaceId : TenantId) (row : ResourceRow) : Option ShieldRow :=
  (row.shieldId.bind db.shields).filter (·.tenantId == workspaceId)

/-- The row's shield is missing in the workspace or revoked. -/
def shieldRevoked (db : Db) (workspaceId : TenantId) (row : ResourceRow) : Bool :=
  row.shieldId.isSome &&
    (joinedShield db workspaceId row).all fun s => s.status == .revoked || s.tombstone

def joinRow (db : Db) (rule : AccessRule) (row : ResourceRow) : Option CompilerResourceRow := do
  let network ← db.networks row.remoteNetworkId
  if row.tenantId = rule.workspaceId ∧ network.1 = rule.workspaceId ∧ row.status ≠ .deleting then
    some
      { resourceId := rule.resourceId.text
        name := row.name
        address := row.host
        port := row.portFrom.toUInt32
        protocol := row.protocol.text
        groupId := rule.groupId
        shieldId := row.shieldId.getD ""
        shieldConnectorId := (joinedShield db rule.workspaceId row).elim "" ShieldRow.connectorId
        status := row.status.text
        remoteNetworkId := row.remoteNetworkId
        remoteNetworkName := network.2
        shieldRevoked := shieldRevoked db rule.workspaceId row }
  else none

def ruleRow (db : Db) (rule : AccessRule) : Option CompilerResourceRow :=
  (db.resources.lookup rule.resourceId).bind (joinRow db rule)

def listEnabledRulesWithResources (db : Db) (workspaceId : TenantId) : List CompilerResourceRow :=
  (db.rules.filter (·.workspaceId == workspaceId)).filterMap (ruleRow db)

/-- Route and shield of the resource's entry, if it has one. -/
def compiledEntry (db : Db) (workspaceId : TenantId) (id : ResourceId) : Option (String × String) :=
  match collectRules (listEnabledRulesWithResources db workspaceId) with
  | .error _ => none
  | .ok c => (c.entries.entries.find? fun e => e.1.resourceId == id.text).map fun e =>
      (e.2.routeType, e.2.shieldId)

def routeOf (rule : CompilerResourceRow) : Option (String × String) :=
  if shieldUnavailable rule then none
  else
    match routeTypeForResource rule.status rule.shieldId with
    | .error _ => none
    | .ok routeType => some (routeType, rule.shieldId)

/-- Every entry comes from a rule, and every rule with a route has its entry. -/
structure Reflects (rules : List CompilerResourceRow) (c : Collected) : Prop where
  sound : ∀ key info, c.entries.lookup key = some info →
    ∃ rule ∈ rules, rule.key = key ∧ routeOf rule = some (info.routeType, info.shieldId)
  complete : ∀ rule ∈ rules, (routeOf rule).isSome → rule.key ∈ c.entries

/-- The compiler stops at no rule. -/
def Compiles (rule : CompilerResourceRow) : Prop := shieldUnavailable rule ∨ (routeOf rule).isSome

variable {rule r : CompilerResourceRow} {db : Db} {tid : TenantId} {id : ResourceId}
  {row : ResourceRow} {ack : Ack}

lemma collectRule_ok (c : Collected) (h : Compiles rule) : ∃ c', collectRule c rule = .ok c' := by
  unfold collectRule
  split
  · exact ⟨c, rfl⟩
  · next ha =>
    have hr := h.resolve_left ha
    unfold entryForRule
    split
    · exact ⟨_, rfl⟩
    · unfold routeOf at hr
      rw [if_neg ha] at hr
      cases hok : routeTypeForResource rule.status rule.shieldId with
      | error e =>
        rw [hok] at hr
        cases hr
      | ok routeType => exact ⟨_, rfl⟩

variable {c : Collected} {rules : List CompilerResourceRow}

lemma entryForRule_cases {info} (ha : ¬ shieldUnavailable rule = true)
    (h : entryForRule c rule = .ok info) :
    (∃ old, c.entries.lookup rule.key = some old ∧ info.routeType = old.routeType ∧
      info.shieldId = old.shieldId) ∨ routeOf rule = some (info.routeType, info.shieldId) := by
  unfold entryForRule at h
  split at h
  · next old hold =>
    cases h
    exact .inl ⟨old, hold, rfl, rfl⟩
  · split at h
    · cases h
    · next routeType hok =>
      cases h
      refine .inr ?_
      rw [routeOf, if_neg ha, hok]

lemma Reflects.collectRule {c'} (h : Reflects rules c) (hc : collectRule c rule = .ok c') :
    Reflects (rules ++ [rule]) c' := by
  unfold Compiler.collectRule at hc
  split at hc
  · next hu =>
    cases hc
    refine ⟨fun key info hl => ?_, fun r hr hrt => ?_⟩
    · obtain ⟨r, hr, hk⟩ := h.sound key info hl
      exact ⟨r, mem_append_left _ hr, hk⟩
    · rcases mem_append.1 hr with hr | hr
      · exact h.complete r hr hrt
      · obtain rfl := mem_singleton.1 hr
        rw [routeOf, if_pos hu] at hrt
        cases hrt
  · next ha =>
    obtain ⟨info', hi, hc⟩ := bind_eq_ok.1 hc
    cases hc
    refine ⟨fun key info hl => ?_, fun r hr hrt => ?_⟩
    · rcases lookup_insert_eq_some.1 hl with ⟨rfl, rfl⟩ | ⟨-, hold⟩
      · rcases entryForRule_cases ha hi with ⟨old, hold, hr, hs⟩ | ho
        · obtain ⟨r, hr', hk, hrt⟩ := h.sound rule.key old hold
          exact ⟨r, mem_append_left _ hr', hk, by rw [hrt, hr, hs]⟩
        · exact ⟨rule, mem_append_right _ mem_cons_self, rfl, ho⟩
      · obtain ⟨r, hr, hk⟩ := h.sound key info hold
        exact ⟨r, mem_append_left _ hr, hk⟩
    · rw [mem_insert]
      rcases mem_append.1 hr with hr | hr
      · exact .inr (h.complete r hr hrt)
      · exact .inl (by rw [mem_singleton.1 hr])

lemma collectRules_reflects (h : ∀ rule ∈ rules, Compiles rule) :
    ∃ c, collectRules rules = .ok c ∧ Reflects rules c := by
  have hf : ∀ (rest before : List CompilerResourceRow) (c : Collected), Reflects before c →
      (∀ rule ∈ rest, Compiles rule) →
      ∃ c', rest.foldlM Compiler.collectRule c = .ok c' ∧ Reflects (before ++ rest) c' := by
    intro rest
    induction rest with
    | nil =>
      intro before c hc _
      exact ⟨c, rfl, by rw [append_nil]; exact hc⟩
    | cons rule rest ih =>
      intro before c hc ha
      obtain ⟨c1, hc1⟩ := collectRule_ok c (ha rule mem_cons_self)
      obtain ⟨c', hc', hrf⟩ := ih (before ++ [rule]) c1 (hc.collectRule hc1)
        fun r hr => ha r (mem_cons_of_mem rule hr)
      refine ⟨c', ?_, by rwa [append_assoc] at hrf⟩
      rw [foldlM_cons, hc1]
      exact hc'
  have he : Reflects [] ⟨∅, [], ∅⟩ := ⟨by simp, fun _ hr => absurd hr not_mem_nil⟩
  exact hf rules [] _ he h

/-! ### One resource -/

/-- What the compiler makes of a resource that a rule names. -/
def entryOf (db : Db) (workspaceId : TenantId) (id : ResourceId) : Option (String × String) :=
  (ruleRow db ⟨workspaceId, id, ""⟩).bind routeOf

def HasRule (db : Db) (workspaceId : TenantId) (id : ResourceId) : Prop :=
  ∃ rule ∈ db.rules, rule.workspaceId = workspaceId ∧ rule.resourceId = id

lemma ruleRow_eq_some {rule} (h : ruleRow db rule = some r) :
    ∃ row, db.resources.lookup rule.resourceId = some row ∧ row.status ≠ .deleting ∧
      r.resourceId = rule.resourceId.text ∧ r.status = row.status.text ∧
      r.shieldId = row.shieldId.getD "" := by
  obtain ⟨row, hr, h⟩ := bind_eq_some_iff.1 h
  obtain ⟨net, -, h⟩ := bind_eq_some_iff.1 h
  split at h
  · next hc =>
    cases h
    exact ⟨row, hr, hc.2.2, rfl, rfl, rfl⟩
  · cases h

lemma ruleRow_group (db : Db) (rule : AccessRule) :
    ruleRow db rule = (ruleRow db ⟨rule.workspaceId, rule.resourceId, ""⟩).map fun r =>
        { r with groupId := rule.groupId } := by
  unfold ruleRow
  cases db.resources.lookup rule.resourceId with
  | none => rfl
  | some row =>
    simp only [bind_some, joinRow]
    cases db.networks row.remoteNetworkId with
    | none => rfl
    | some net =>
      simp only [bind_eq_bind, bind_some]
      split <;> rfl

lemma routeOf_group (r : CompilerResourceRow) (groupId : String) :
    routeOf { r with groupId := groupId } = routeOf r := rfl

lemma ruleRow_compiles {rule} (h : ruleRow db rule = some r) : Compiles r := by
  obtain ⟨row, -, hst, -, hr, -⟩ := ruleRow_eq_some h
  unfold Compiles
  by_cases ha : shieldUnavailable r
  · exact .inl ha
  · refine .inr ?_
    rw [routeOf, if_neg ha]
    unfold shieldUnavailable at ha
    unfold routeTypeForResource
    cases hs : row.status <;> simp_all [ResourceStatus.text]

/-- **The compiled entry** of a resource is that of its row, where a rule names it. -/
lemma compiledEntry_eq (db : Db) (wid : TenantId) (id : ResourceId) :
    (HasRule db wid id → compiledEntry db wid id = entryOf db wid id) ∧
      (¬ HasRule db wid id → compiledEntry db wid id = none) := by
  have hm : ∀ r, r ∈ listEnabledRulesWithResources db wid ↔
      ∃ rule ∈ db.rules, rule.workspaceId = wid ∧ ruleRow db rule = some r := by
    intro r
    simp [listEnabledRulesWithResources, and_assoc]
  have hcm : ∀ r ∈ listEnabledRulesWithResources db wid, Compiles r := by
    intro r hr
    obtain ⟨rule, -, -, hrow⟩ := (hm r).1 hr
    exact ruleRow_compiles hrow
  obtain ⟨c, hc, hrf⟩ := collectRules_reflects hcm
  -- an entry of the resource comes from a rule that names it
  have hen : ∀ e ∈ c.entries.entries, e.1.resourceId = id.text → HasRule db wid id ∧
        entryOf db wid id = some (e.2.routeType, e.2.shieldId) := by
    rintro ⟨key, info⟩ he hid
    obtain ⟨r, hr, rfl, hrt⟩ := hrf.sound key info (mem_lookup_iff.2 he)
    obtain ⟨rule, hrl, rfl, hrow⟩ := (hm r).1 hr
    obtain ⟨-, -, -, hrid, -⟩ := ruleRow_eq_some hrow
    obtain rfl : rule.resourceId = id := ResourceId.ext (hrid.symm.trans hid)
    refine ⟨⟨rule, hrl, rfl, rfl⟩, ?_⟩
    rw [ruleRow_group] at hrow
    obtain ⟨r0, hr0, rfl⟩ := map_eq_some_iff.1 hrow
    rw [entryOf, hr0]
    exact hrt
  have hd : compiledEntry db wid id =
      (c.entries.entries.find? fun e => e.1.resourceId == id.text).map fun e =>
        (e.2.routeType, e.2.shieldId) := by
    unfold compiledEntry
    rw [hc]
  rw [hd]
  cases hf : c.entries.entries.find? fun e => e.1.resourceId == id.text with
  | none =>
    refine ⟨fun ⟨rule, hrl, hws, hid⟩ => ?_, fun _ => rfl⟩
    subst hws hid
    cases hen : entryOf db rule.workspaceId rule.resourceId with
    | none => rfl
    | some entry =>
      -- the rule's entry would have been found
      obtain ⟨r0, hr0, hrt⟩ := bind_eq_some_iff.1 hen
      have hrow : ruleRow db rule = some { r0 with groupId := rule.groupId } := by
        rw [ruleRow_group, hr0]
        rfl
      have hin := hrf.complete _ ((hm _).2 ⟨rule, hrl, rfl, hrow⟩) (by rw [routeOf_group, hrt]; rfl)
      obtain ⟨info, hi⟩ := isSome_iff_exists.1 (lookup_isSome.2 hin)
      obtain ⟨-, -, -, hrid, -⟩ := ruleRow_eq_some hrow
      have hne := List.find?_eq_none.1 hf _ (mem_lookup_iff.1 hi)
      exact absurd (by simpa [CompilerResourceRow.key] using hrid) hne
  | some e =>
    obtain ⟨hrl, heq⟩ := hen e (mem_of_find?_eq_some hf) (by simpa using List.find?_some hf)
    exact ⟨fun _ => heq.symm, fun hno => absurd hrl hno⟩

/-! ### What an ack does -/

def ConnectorEntry (db : Db) (workspaceId : TenantId) (id : ResourceId) : Prop :=
  (compiledEntry db workspaceId id).map Prod.fst = some "connector"

/-- The shield that the row is bound to confirms the removal that the row waits for. -/
def ConfirmsRemoval (db : Db) (tenantId : TenantId) (ack : Ack) : Prop :=
  ∃ row, db.row tenantId ack.resourceId = some row ∧ row.status = .protecting ∧
    row.pendingAction = .remove ∧ ack.status = .unprotected ∧ row.shieldId = some ack.shieldId

/-- The ack took a tombstone away. -/
def TombstoneReaped (db db' : Db) (tenantId : TenantId) (ack : Ack) : Prop :=
  ∃ row, db.row tenantId ack.resourceId = some row ∧ row.status = .deleting ∧
    db'.resources.lookup ack.resourceId = none

/-- An ack with one of the statuses that shields report, and no verdict on a rule that the
shield does not have. -/
def Timely (db : Db) (tenantId : TenantId) (ack : Ack) : Prop :=
  (ack.status = .protected_ ∨ ack.status = .failed ∨ ack.status = .unprotected) ∧
    ∀ row, db.row tenantId ack.resourceId = some row → connectorRouted row.status = true →
      ack.status = .unprotected

/-- What `RecordAck` does: nothing, take a tombstone away, or write the row. -/
inductive Recorded (db : Db) (tenantId : TenantId) (ack : Ack) (now : ℤ) : Db × Bool → Prop
  | ignored : Recorded db tenantId ack now (db, false)
  | reaped (row : ResourceRow) (hrow : db.row tenantId ack.resourceId = some row)
      (hstatus : row.status = .deleting) :
      Recorded db tenantId ack now (db.deleteRow ack.resourceId, true)
  | written (row : ResourceRow) (hrow : db.row tenantId ack.resourceId = some row)
      (haccepted : ackAccepted db row ack = true) :
      Recorded db tenantId ack now (db.setRow ack.resourceId (ackedRow row ack now),
        connectorRouted row.status != connectorRouted ack.status)

lemma recordAck_recorded (db : Db) (tid : TenantId) (ack : Ack) (now : ℤ) :
    Recorded db tid ack now (recordAck db tid ack now) := by
  unfold recordAck
  split
  · next db' hrp =>
    obtain ⟨row, hr, hs, -, rfl⟩ := reapOnAck_eq_some hrp
    exact .reaped row hr hs
  · split
    · next db' oldStatus hu =>
      obtain ⟨row, hr, ha, rfl, rfl⟩ := updateOnAck_eq_some hu
      exact .written row hr ha
    · exact .ignored

/-! ### Routes by status -/

/-- What the compiler makes of a row with this status. -/
def statusRoute (shieldId : String) (shieldRevoked : Bool) :
    ResourceStatus → Option (String × String)
  | .pending | .unprotected => some ("connector", shieldId)
  | .protecting | .protected_ | .failed =>
    if shieldId == "" || shieldRevoked then none else some ("shield", shieldId)
  | .deleting => none

def InWorkspace (db : Db) (workspaceId : TenantId) (row : ResourceRow) : Prop :=
  row.tenantId = workspaceId ∧
    (db.networks row.remoteNetworkId).map Prod.fst = some workspaceId

instance (db : Db) (workspaceId : TenantId) (row : ResourceRow) :
    Decidable (InWorkspace db workspaceId row) :=
  inferInstanceAs (Decidable (_ ∧ _))

lemma routeOf_eq {status} (h : r.status = status.text) (hne : status ≠ .deleting) :
    routeOf r = statusRoute r.shieldId r.shieldRevoked status := by
  unfold routeOf shieldUnavailable routeTypeForResource
  rw [h]
  cases status with
  | deleting => exact absurd rfl hne
  | pending | unprotected => simp [ResourceStatus.text, statusRoute]
  | protecting | protected_ | failed =>
    by_cases hs : r.shieldId = ""
    · simp [ResourceStatus.text, statusRoute, hs]
    · cases r.shieldRevoked <;> simp [ResourceStatus.text, statusRoute, hs]

lemma joinRow_route (db : Db) (rule : AccessRule) (row : ResourceRow) :
    (joinRow db rule row).bind routeOf = if InWorkspace db rule.workspaceId row then
        statusRoute (row.shieldId.getD "") (shieldRevoked db rule.workspaceId row) row.status
      else none := by
  by_cases hin : InWorkspace db rule.workspaceId row
  · rw [if_pos hin]
    obtain ⟨ht, hn⟩ := hin
    obtain ⟨net, hnet, hf⟩ := map_eq_some_iff.1 hn
    unfold joinRow
    rw [hnet]
    simp only [bind_eq_bind, bind_some, ht, hf, true_and]
    split
    · next hne => exact routeOf_eq rfl hne
    · next hd =>
      rw [not_not.1 hd]
      rfl
  · rw [if_neg hin]
    unfold joinRow
    cases hnet : db.networks row.remoteNetworkId with
    | none => rfl
    | some net =>
      simp only [bind_eq_bind, bind_some]
      rw [if_neg]
      · rfl
      · rintro ⟨ht, hf, -⟩
        exact hin ⟨ht, by rw [hnet, map_some, hf]⟩

lemma entryOf_eq (db : Db) (wid : TenantId) (id : ResourceId) :
    entryOf db wid id = (db.resources.lookup id).bind fun row =>
      if InWorkspace db wid row then
        statusRoute (row.shieldId.getD "") (shieldRevoked db wid row) row.status
      else none := by
  unfold entryOf ruleRow
  cases db.resources.lookup id with
  | none => rfl
  | some row => exact joinRow_route db ⟨wid, id, ""⟩ row

lemma entryOf_setRow (db : Db) (wid : TenantId) (id : ResourceId) (row : ResourceRow) :
    entryOf (db.setRow id row) wid id = if InWorkspace db wid row then
        statusRoute (row.shieldId.getD "") (shieldRevoked db wid row) row.status
      else none := by
  rw [entryOf_eq]
  simp only [Db.setRow, lookup_insert, bind_some]
  rfl

lemma entryOf_row (h : db.row tid id = some row) :
    entryOf db tid id = if InWorkspace db tid row then
        statusRoute (row.shieldId.getD "") (shieldRevoked db tid row) row.status
      else none := by
  rw [entryOf_eq, (filter_eq_some_iff.1 h).1, bind_some]

/-- An ack that is accepted either confirms a removal or is a verdict on a rule that the shield
has, and then the route stays. -/
lemma accepted_cases (ht : Timely db tid ack)
    (hrow : db.row tid ack.resourceId = some row) (ha : ackAccepted db row ack = true) :
    (row.status = .protecting ∧ row.pendingAction = .remove ∧ ack.status = .unprotected ∧
      row.shieldId = some ack.shieldId) ∨
    (connectorRouted row.status = false ∧ connectorRouted ack.status = false ∧
      row.status ≠ .deleting ∧ ∀ sid revoked,
        statusRoute sid revoked ack.status = statusRoute sid revoked row.status) := by
  simp only [ackAccepted, Bool.and_eq_true, Bool.or_eq_true, Bool.not_eq_true', bne_iff_ne,
    beq_iff_eq, Bool.and_eq_false_iff, ne_eq] at ha
  obtain ⟨⟨⟨⟨hd, -⟩, hr⟩, hsh⟩, -⟩ := ha
  by_cases hu : ack.status = .unprotected
  · obtain ⟨hp, hrm⟩ := hr.resolve_left (not_not.2 hu)
    exact .inl ⟨hp, hrm, hu, hsh⟩
  · have hold : connectorRouted row.status = false := by
      rw [← Bool.not_eq_true]
      exact fun hc => hu (ht.2 row hrow hc)
    refine .inr ⟨hold, ?_, hd, fun sid revoked => ?_⟩
    · rcases ht.1 with h | h | h
      · rw [h]; rfl
      · rw [h]; rfl
      · exact absurd h hu
    · have hcl : statusRoute sid revoked row.status =
          if sid == "" || revoked then none else some ("shield", sid) := by
        cases hs : row.status with
        | pending | unprotected => rw [hs] at hold; cases hold
        | deleting => exact absurd hs hd
        | protecting | protected_ | failed => rfl
      rw [hcl]
      rcases ht.1 with h | h | h
      · rw [h]; rfl
      · rw [h]; rfl
      · exact absurd h hu

/-- The compiler's query has the resource, if the resource is there. -/
def Listed (db : Db) (workspaceId : TenantId) (id : ResourceId) : Prop :=
  HasRule db workspaceId id ∧
    ∀ row, db.row workspaceId id = some row → InWorkspace db workspaceId row

lemma compiledEntry_congr (db db' : Db) {wid} (hr : db'.rules = db.rules)
    (h : entryOf db' wid id = entryOf db wid id) :
    compiledEntry db' wid id = compiledEntry db wid id := by
  have hi : HasRule db' wid id ↔ HasRule db wid id := by
    unfold HasRule
    rw [hr]
  by_cases hrl : HasRule db wid id
  · rw [(compiledEntry_eq db wid id).1 hrl, (compiledEntry_eq db' wid id).1 (hi.2 hrl), h]
  · rw [(compiledEntry_eq db wid id).2 hrl,
      (compiledEntry_eq db' wid id).2 (fun h' => hrl (hi.1 h'))]

lemma compiledEntry_reaped (hr : db.row tid id = some row) (hs : row.status = .deleting) :
    compiledEntry (db.deleteRow id) tid id = compiledEntry db tid id := by
  have hn : (db.deleteRow id).resources.lookup id = none := lookup_erase _ _
  refine compiledEntry_congr db (db.deleteRow id) rfl ?_
  rw [entryOf_eq, hn, entryOf_row hr, hs]
  split <;> rfl

lemma compiledEntry_verdict (now : ℤ) (hrow : db.row tid ack.resourceId = some row)
    (hr : ∀ sid rev, statusRoute sid rev ack.status = statusRoute sid rev row.status) :
    compiledEntry (db.setRow ack.resourceId (ackedRow row ack now)) tid ack.resourceId =
      compiledEntry db tid ack.resourceId := by
  refine compiledEntry_congr db _ rfl ?_
  rw [entryOf_setRow, entryOf_row hrow]
  have hin : InWorkspace db tid (ackedRow row ack now) ↔ InWorkspace db tid row := Iff.rfl
  by_cases h : InWorkspace db tid row
  · rw [if_pos h, if_pos (hin.2 h)]
    exact hr _ _
  · rw [if_neg h, if_neg (mt hin.1 h)]

lemma compiledEntry_confirmed (now : ℤ) (hl : Listed db tid ack.resourceId)
    (hrow : db.row tid ack.resourceId = some row) (hp : row.status = .protecting)
    (hu : ack.status = .unprotected) :
    compiledEntry (db.setRow ack.resourceId (ackedRow row ack now)) tid ack.resourceId ≠
      compiledEntry db tid ack.resourceId := by
  obtain ⟨hr, hin⟩ := hl
  have hin := hin row hrow
  have hr' : HasRule (db.setRow ack.resourceId (ackedRow row ack now)) tid ack.resourceId := hr
  rw [(compiledEntry_eq _ tid ack.resourceId).1 hr',
    (compiledEntry_eq db tid ack.resourceId).1 hr, entryOf_setRow, entryOf_row hrow,
    if_pos hin, if_pos (show InWorkspace db tid (ackedRow row ack now) from hin), hp]
  simp only [ackedRow, hu, statusRoute]
  split <;> simp

/-- **Only a confirmed removal re-routes a resource**, and `aclChanged` tells of a changed entry
or a tombstone taken away. -/
theorem recordAck_reroutes (db : Db) (tenantId : TenantId) (ack : Ack) (now : ℤ)
    (htimely : Timely db tenantId ack) :
    (¬ (ConnectorEntry (recordAck db tenantId ack now).1 tenantId ack.resourceId ↔
        ConnectorEntry db tenantId ack.resourceId) → ConfirmsRemoval db tenantId ack) ∧
    (Listed db tenantId ack.resourceId →
      ((recordAck db tenantId ack now).2 = true ↔
        compiledEntry (recordAck db tenantId ack now).1 tenantId ack.resourceId ≠
          compiledEntry db tenantId ack.resourceId ∨
        TombstoneReaped db (recordAck db tenantId ack now).1 tenantId ack)) := by
  have hr := recordAck_recorded db tenantId ack now
  generalize recordAck db tenantId ack now = result at hr ⊢
  cases hr with
  | ignored =>
    refine ⟨fun h => absurd Iff.rfl h, fun _ => ⟨by simp, ?_⟩⟩
    rintro (h | ⟨row, hrow, -, hn⟩)
    · exact absurd rfl h
    · cases hn.symm.trans (filter_eq_some_iff.1 hrow).1
  | reaped row hrow hs =>
    refine ⟨fun h => absurd ?_ h, fun _ => ⟨fun _ => .inr ?_, fun _ => rfl⟩⟩
    · rw [ConnectorEntry, ConnectorEntry, compiledEntry_reaped hrow hs]
    · exact ⟨row, hrow, hs, lookup_erase _ _⟩
  | written row hrow ha =>
    rcases accepted_cases htimely hrow ha with ⟨hp, hrm, hu, hsh⟩ | ⟨hold, hnew, hd, hrt⟩
    · refine ⟨fun _ => ⟨row, hrow, hp, hrm, hu, hsh⟩, fun hl => ?_⟩
      rw [hp, hu]
      have hdf := compiledEntry_confirmed now hl hrow hp hu
      exact ⟨fun _ => .inl hdf, fun _ => rfl⟩
    · have he := compiledEntry_verdict now hrow hrt
      refine ⟨fun h => absurd ?_ h, fun _ => ?_⟩
      · rw [ConnectorEntry, ConnectorEntry, he]
      · rw [hold, hnew]
        refine ⟨by simp, ?_⟩
        rintro (h | ⟨row', hr', hs, -⟩)
        · exact absurd he h
        · cases hrow.symm.trans hr'
          exact absurd hs hd

/-! ### One resource behind one shield -/

def web : ResourceId := ⟨"r1", plain_r1⟩

/-- The tables with that one resource. -/
def webWith (status : ResourceStatus) (pendingAction : PendingAction) : Db where
  resources := AList.singleton web
    ⟨"ws", "rn1", "web", "10.0.0.5", .tcp, 443, 443, status, pendingAction, none, none, none, 0,
      some "s1"⟩
  shields id :=
    if id = "s1" then some ⟨"ws", "rn1", "c1", some "10.0.0.5", .active, false⟩ else none
  networks id := if id = "rn1" then some ("ws", "office") else none
  rules := [⟨"ws", web, "g1"⟩]

/-- The shield reports the rule's removal. -/
def removalAck : Ack := ⟨web, .unprotected, "", 9, "s1", "10.0.0.5", .tcp, 443, 443⟩

theorem recordAck_reroutes_unprotect :
    Timely (webWith .protecting .remove) "ws" removalAck ∧
      Listed (webWith .protecting .remove) "ws" removalAck.resourceId ∧
      ((recordAck (webWith .protecting .remove) "ws" removalAck 10).2 = true ↔
        compiledEntry (recordAck (webWith .protecting .remove) "ws" removalAck 10).1 "ws"
            removalAck.resourceId ≠
          compiledEntry (webWith .protecting .remove) "ws" removalAck.resourceId ∨
        TombstoneReaped (webWith .protecting .remove)
          (recordAck (webWith .protecting .remove) "ws" removalAck 10).1 "ws" removalAck) := by
  have ht : Timely (webWith .protecting .remove) "ws" removalAck :=
    ⟨.inr (.inr rfl), fun _ _ _ => rfl⟩
  have hl : Listed (webWith .protecting .remove) "ws" removalAck.resourceId := by
    refine ⟨⟨_, mem_cons_self, rfl, rfl⟩, fun row hr => ?_⟩
    cases hr
    exact ⟨rfl, rfl⟩
  exact ⟨ht, hl, (recordAck_reroutes _ "ws" removalAck 10 ht).2 hl⟩

/-- The removal of a tombstone is reported as a change, though the resource had no entry before
and has none after. -/
theorem reaped_without_change :
    (recordAck (webWith .deleting .remove) "ws" removalAck 10).2 = true ∧
      compiledEntry (webWith .deleting .remove) "ws" web = none ∧
      compiledEntry (recordAck (webWith .deleting .remove) "ws" removalAck 10).1 "ws" web =
        none := by
  decide

end Zecurity.ResourceAcks
