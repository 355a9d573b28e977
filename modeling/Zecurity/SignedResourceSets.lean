import Zecurity.ResourceStore
import Zecurity.Runs

/-!
Building the signed resource set of a shield (`controller/internal/resource/store.go`,
`BuildShieldSnapshot`; `controller/internal/connector/resource_set.go`, `signResourceSet`).

A build locks the shield's row, reads the desired set, moves the generation on if the
fingerprint has changed, and commits; the removals come from a later query of their own. The
statements of any number of builds interleave with every change to the resources. The digest of a
fingerprint stands for the text that is hashed, and no digest is the column's default.
-/

namespace Zecurity.SignedResourceSets

open FiniteMap Function List Option ResourceStore Runs

/-! ### The fingerprint -/

/-- One line of the text that is hashed, without its line break. -/
def line (r : PendingRow) : List Char :=
  r.id.text.toList ++ '|' :: (r.host.toList ++ '|' :: (r.protocol.text.toList ++
    '|' :: (Nat.toDigits 10 r.portFrom ++ '|' :: Nat.toDigits 10 r.portTo)))

def fingerprintDesired (rows : List PendingRow) : List Char :=
  (rows.insertionSort fun a b => a.id.text ≤ b.id.text).flatMap fun r => line r ++ ['\n']

/-- No host has a line break. -/
def PlainHosts (rows : List PendingRow) : Prop := ∀ r ∈ rows, '\n' ∉ r.host.toList

instance (rows : List PendingRow) : Decidable (PlainHosts rows) :=
  inferInstanceAs (Decidable (∀ r ∈ rows, _))

variable {r : PendingRow} {row : ResourceRow} {tenantId : TenantId} {now : ℤ}

lemma notMem_toDigits {c} (hc : ¬ c.isDigit) (n : ℕ) : c ∉ Nat.toDigits 10 n := fun h =>
  hc (Nat.isDigit_of_mem_toDigits (by decide) (by decide) h)

lemma newline_notMem_line (h : '\n' ∉ r.host.toList) : '\n' ∉ line r := by
  have hid : '\n' ∉ r.id.text.toList := fun hm => (r.id.plain _ hm).2 rfl
  have hp : '\n' ∉ r.protocol.text.toList := by cases r.protocol <;> decide
  simp [line, hid, h, hp, notMem_toDigits]

lemma append_cons_inj {α : Type*} {c : α} : ∀ {a b x y : List α}, c ∉ a → c ∉ b →
    a ++ c :: x = b ++ c :: y → a = b ∧ x = y
  | [], [], x, y, _, _, h => ⟨rfl, (List.cons.inj h).2⟩
  | [], e :: b, x, y, _, hb, h => absurd ((List.cons.inj h).1 ▸ mem_cons_self) hb
  | d :: a, [], x, y, ha, _, h => absurd ((List.cons.inj h).1 ▸ mem_cons_self) ha
  | d :: a, e :: b, x, y, ha, hb, h => by
    obtain ⟨rfl, hr⟩ := List.cons.inj h
    obtain ⟨rfl, rfl⟩ := append_cons_inj (fun hc => ha (mem_cons_of_mem d hc))
      (fun hc => hb (mem_cons_of_mem d hc)) hr
    exact ⟨rfl, rfl⟩

lemma bar_notMem_id (id : ResourceId) : '|' ∉ id.text.toList := fun h => (id.plain _ h).1 rfl

variable {r' : PendingRow} {sh : ShieldId} {rows' : List PendingRow}

lemma id_of_line_eq (h : line r = line r') : r.id = r'.id := by
  have ht := append_cons_inj (bar_notMem_id r.id) (bar_notMem_id r'.id) h
  exact ResourceId.ext (String.toList_inj.1 ht.1)

/-- No host has a separator of the text. -/
def CleanHosts (rows : List PendingRow) : Prop :=
  ∀ r ∈ rows, '|' ∉ r.host.toList ∧ '\n' ∉ r.host.toList

lemma eq_of_line_eq (hb : '|' ∉ r.host.toList) (hb' : '|' ∉ r'.host.toList) (h : line r = line r') :
    r = r' := by
  have hp : ∀ p : Protocol, '|' ∉ p.text.toList := fun p => by cases p <;> decide
  have hpr : ∀ n : ℕ, '|' ∉ Nat.toDigits 10 n := notMem_toDigits (by decide)
  have hv : ∀ {m n : ℕ}, Nat.toDigits 10 m = Nat.toDigits 10 n → m = n := fun {m n} h => by
    have hd := congrArg (Nat.ofDigitChars 10 · 0) h
    simpa [Nat.ofDigitChars_toDigits] using hd
  obtain ⟨-, hr⟩ := append_cons_inj (bar_notMem_id r.id) (bar_notMem_id r'.id) h
  obtain ⟨hh, hr⟩ := append_cons_inj hb hb' hr
  obtain ⟨ht, hr⟩ := append_cons_inj (hp _) (hp _) hr
  obtain ⟨hf, hto⟩ := append_cons_inj (hpr _) (hpr _) hr
  have hs : r.protocol = r'.protocol := by
    revert ht
    cases r.protocol <;> cases r'.protocol <;> decide
  have hid := id_of_line_eq h
  cases r
  cases r'
  exact PendingRow.mk.injEq .. ▸ ⟨hid, String.toList_inj.1 hh, hs, hv hf, hv hto⟩

lemma map_eq_of_text_eq {β : Type*} {P : PendingRow → Prop} {f : PendingRow → β}
    (hP : ∀ r, P r → '\n' ∉ r.host.toList)
    (hf : ∀ r r', P r → P r' → line r = line r' → f r = f r') :
    ∀ {rows rows' : List PendingRow}, (∀ r ∈ rows, P r) → (∀ r ∈ rows', P r) →
    (rows.flatMap fun r => line r ++ ['\n']) = (rows'.flatMap fun r => line r ++ ['\n']) →
    rows.map f = rows'.map f
  | [], [], _, _, _ => rfl
  | [], r' :: rows', _, _, h => by simp at h
  | r :: rows, [], _, _, h => by simp at h
  | r :: rows, r' :: rows', hrw, hrw', h => by
    simp only [flatMap_cons, append_assoc, singleton_append] at h
    have hr := hrw r mem_cons_self
    have hr' := hrw' r' mem_cons_self
    obtain ⟨hl, hrs⟩ := append_cons_inj (newline_notMem_line (hP r hr))
      (newline_notMem_line (hP r' hr')) h
    have ih := map_eq_of_text_eq hP hf (fun x hx => hrw x (mem_cons_of_mem r hx))
      (fun x hx => hrw' x (mem_cons_of_mem r' hx)) hrs
    rw [map_cons, map_cons, hf r r' hr hr' hl, ih]

/-- **Equal fingerprints** are fingerprints of the same resources. -/
lemma mem_ids_of_fingerprint_eq {rows} (hrw : PlainHosts rows) (hrw' : PlainHosts rows')
    (h : fingerprintDesired rows = fingerprintDesired rows') (hr : r ∈ rows) :
    ∃ r' ∈ rows', r'.id = r.id := by
  have hi := map_eq_of_text_eq (fun _ => id) (fun _ _ _ _ => id_of_line_eq)
    (fun x hx => hrw x ((mem_insertionSort _).1 hx))
    (fun x hx => hrw' x ((mem_insertionSort _).1 hx)) h
  have hm : r.id ∈ (rows.insertionSort fun a b => a.id.text ≤ b.id.text).map PendingRow.id :=
    mem_map_of_mem ((mem_insertionSort _).2 hr)
  rw [hi] at hm
  obtain ⟨r', hr', hid⟩ := List.mem_map.1 hm
  exact ⟨r', (mem_insertionSort _).1 hr', hid⟩

/-- **Equal fingerprints** of hosts without separators are fingerprints of the same content. -/
lemma perm_of_fingerprint_eq {rows} (hrw : CleanHosts rows) (hrw' : CleanHosts rows')
    (h : fingerprintDesired rows = fingerprintDesired rows') : rows.Perm rows' := by
  have hs := map_eq_of_text_eq (fun _ hr => hr.2) (fun _ _ hr hr' => eq_of_line_eq hr.1 hr'.1)
    (fun x hx => hrw x ((mem_insertionSort _).1 hx))
    (fun x hx => hrw' x ((mem_insertionSort _).1 hx)) h
  rw [List.map_id', List.map_id'] at hs
  exact (perm_insertionSort _ rows).symm.trans (hs ▸ perm_insertionSort _ rows')

/-! ### Which resources a query lists -/

def Desires (db : Db) (shieldId : ShieldId) (id : ResourceId) : Prop :=
  ∃ row ∈ db.resources.lookup id, row.desired shieldId = true

def Removes (db : Db) (shieldId : ShieldId) (id : ResourceId) : Prop :=
  ∃ row ∈ db.resources.lookup id, row.removing shieldId = true

instance (db : Db) (shieldId : ShieldId) (id : ResourceId) : Decidable (Desires db shieldId id) :=
  inferInstanceAs (Decidable (∃ row ∈ db.resources.lookup id, _))

instance (db : Db) (shieldId : ShieldId) (id : ResourceId) : Decidable (Removes db shieldId id) :=
  inferInstanceAs (Decidable (∃ row ∈ db.resources.lookup id, _))

lemma mem_ids_pendingRows {db : Db} {p : ResourceRow → Bool} {id : ResourceId} :
    id ∈ (db.pendingRows p).map PendingRow.id ↔ ∃ row ∈ db.resources.lookup id, p row = true := by
  simp only [Db.pendingRows, List.map_map, List.mem_map, Function.comp_apply, Db.pendingRow]
  constructor
  · rintro ⟨⟨id', row⟩, hm, rfl⟩
    have hl := AList.mem_lookup_iff.2 hm
    obtain ⟨hr, hp⟩ := lookup_retain_eq_some.1 hl
    exact ⟨row, hr, hp⟩
  · rintro ⟨row, hr, hp⟩
    have hl : (retain db.resources fun _ row => p row).lookup id = some row :=
      lookup_retain_eq_some.2 ⟨hr, hp⟩
    exact ⟨⟨id, row⟩, AList.mem_lookup_iff.1 hl, rfl⟩

lemma mem_desiredForShield {db : Db} {k : ShieldId} {id : ResourceId} :
    id ∈ (db.desiredForShield k).map PendingRow.id ↔ Desires db k id :=
  mem_ids_pendingRows

lemma mem_removesForShield {db : Db} {k : ShieldId} {id : ResourceId} :
    id ∈ (db.removesForShield k).map PendingRow.id ↔ Removes db k id :=
  mem_ids_pendingRows

lemma not_removing_of_desired {row' : ResourceRow} {k : ShieldId}
    (h : row.desired k = true) (hs : row'.status = row.status)
    (ha : row'.pendingAction = row.pendingAction) : row'.removing k = false := by
  revert h
  unfold ResourceRow.desired ResourceRow.removing
  rw [hs, ha]
  cases row.status <;> cases row.pendingAction <;> simp

lemma not_removes_of_desires {db : Db} {k : ShieldId} {id : ResourceId}
    (h : Desires db k id) : ¬ Removes db k id := by
  rintro ⟨row', hr', hr⟩
  obtain ⟨row, hrow, hd⟩ := h
  obtain rfl := mem_unique hrow hr'
  rw [not_removing_of_desired hd rfl rfl] at hr
  cases hr

/-! ### Changes of the resources -/

/-- The statements that change resources and shields. -/
inductive Change
  | create (tenantId : TenantId) (id : ResourceId) (input : CreateInput)
      (shield : Option ShieldId) (now : ℤ)
  | update (tenantId : TenantId) (id : ResourceId) (input : UpdateInput) (shield : ShieldId)
      (now : ℤ)
  | markProtecting (tenantId : TenantId) (id : ResourceId) (chosen : Option ShieldId)
      (candidate : ShieldId) (now : ℤ)
  | markUnprotecting (tenantId : TenantId) (id : ResourceId) (now : ℤ)
  | markDeleting (tenantId : TenantId) (id : ResourceId) (now : ℤ)
  | deleteUnprotected (tenantId : TenantId) (id : ResourceId)
  | deleteIfShieldGone (tenantId : TenantId) (id : ResourceId)
  | reapStaleTombstones (now olderThan : ℤ)
  | forceDeleteRow (tenantId : TenantId) (id : ResourceId)
  | updateShieldHealth (shieldId : ShieldId) (connectorId : String) (status : ShieldStatus)
      (lanIp : String)
  | revokeShield (shieldId : ShieldId)
  | reapOnAck (tenantId : TenantId) (ack : Ack)
  | updateOnAck (tenantId : TenantId) (ack : Ack) (now : ℤ)

def Change.apply (db : Db) : Change → Option Db
  | .create tenantId id input shield now => ResourceStore.create db tenantId id input shield now
  | .update tenantId id input shield now => ResourceStore.update db tenantId id input shield now
  | .markProtecting tenantId id chosen candidate now =>
    ResourceStore.markProtecting db tenantId id chosen candidate now
  | .markUnprotecting tenantId id now => ResourceStore.markUnprotecting db tenantId id now
  | .markDeleting tenantId id now => ResourceStore.markDeleting db tenantId id now
  | .deleteUnprotected tenantId id => ResourceStore.deleteUnprotected db tenantId id
  | .deleteIfShieldGone tenantId id => ResourceStore.deleteIfShieldGone db tenantId id
  | .reapStaleTombstones now olderThan => some (ResourceStore.reapStaleTombstones db now olderThan)
  | .forceDeleteRow tenantId id => ResourceStore.forceDeleteRow db tenantId id
  | .updateShieldHealth shieldId connectorId status lanIp =>
    ResourceStore.writeShieldHealth db shieldId connectorId status lanIp
  | .revokeShield shieldId => ResourceStore.revokeShield db shieldId
  | .reapOnAck tenantId ack => ResourceStore.reapOnAck db tenantId ack
  | .updateOnAck tenantId ack now => (ResourceStore.updateOnAck db tenantId ack now).map Prod.fst

/-- The row of `shields` that the statement writes, and waits for. -/
def Change.shield : Change → Option ShieldId
  | .updateShieldHealth shieldId _ _ _ => some shieldId
  | .revokeShield shieldId => some shieldId
  | _ => none

/-- The statements that bring a resource up for removal: an unprotect, a deletion, and an ack
whose status no shield reports. -/
def Change.StartsRemoval (id : ResourceId) : Change → Prop
  | .markUnprotecting _ id' _ => id' = id
  | .markDeleting _ id' _ => id' = id
  | .updateOnAck _ ack _ =>
    ack.resourceId = id ∧ (ack.status = .protecting ∨ ack.status = .deleting)
  | _ => False

lemma not_removing_of_apply (k : ShieldId) (hs : row.status = .protecting)
    (ha : row.pendingAction = .apply) : row.removing k = false := by
  simp [ResourceRow.removing, hs, ha]

lemma lookup_of_row {db : Db} {id : ResourceId} (h : db.row tenantId id = some row) :
    db.resources.lookup id = some row := (filter_eq_some_iff.1 h).1

section Moves

variable {db db' : Db} {k : ShieldId} {id id' : ResourceId}

section

variable (hds : Desires db k id)
include hds

lemma not_removes_setRow (hrow : id = id' → row.removing k = false) :
    ¬ Removes (db.setRow id' row) k id := by
  rintro ⟨row', hr', hr⟩
  rcases lookup_insert_eq_some.1 hr' with ⟨hid, rfl⟩ | ⟨-, hold⟩
  · rw [hrow hid] at hr
    cases hr
  · exact not_removes_of_desires hds ⟨row', hold, hr⟩

lemma not_removes_of_same (hsm : ∀ row', db'.resources.lookup id = some row' →
      ∃ row, db.resources.lookup id = some row ∧
        row'.status = row.status ∧ row'.pendingAction = row.pendingAction) :
    ¬ Removes db' k id := by
  rintro ⟨row', hr', hr⟩
  obtain ⟨row, hrow, hs, ha⟩ := hsm row' hr'
  obtain ⟨row0, hr0, hd⟩ := hds
  obtain rfl := mem_unique hrow hr0
  rw [not_removing_of_desired hd hs ha] at hr
  cases hr

lemma not_removes_deleteRow (id' : ResourceId) : ¬ Removes (db.deleteRow id') k id :=
  not_removes_of_same hds fun row' hr' =>
    ⟨row', (lookup_erase_eq_some.1 hr').1, rfl, rfl⟩

end

/-- **Only these** bring a resource that is to be enforced up for removal. -/
theorem startsRemoval_of_removes {c : Change} (ha : c.apply db = some db')
    (hds : Desires db shieldId id) (hr : Removes db' shieldId id) : c.StartsRemoval id := by
  cases c with
  | create tenantId id' input shield now =>
    obtain ⟨-, hs⟩ := ite_none_left_eq_some.1 ha
    cases hs
    exact not_removes_setRow hds (fun _ => by simp [ResourceRow.removing]) hr
  | update tenantId id' input shield now =>
    -- an edit leaves the two columns, or starts to apply
    obtain ⟨row, hrow, hs⟩ := bind_eq_some_iff.1 ha
    simp only [ite_none_left_eq_some, some.injEq] at hs
    obtain ⟨-, -, -, -, -, -, rfl⟩ := hs
    refine not_removes_setRow hds (fun hid => ?_) hr
    subst hid
    obtain ⟨row0, hr0, hd⟩ := hds
    obtain rfl := mem_unique hr0 (lookup_of_row hrow)
    split
    · exact not_removing_of_apply shieldId rfl rfl
    · split <;> exact not_removing_of_desired hd rfl rfl
  | markProtecting tenantId id' chosen cand now =>
    obtain ⟨row, -, -, ⟨⟩⟩ := bind_ite_eq_some.1 ha
    exact not_removes_setRow hds (fun _ => not_removing_of_apply shieldId rfl rfl) hr
  | markUnprotecting tenantId id' now | markDeleting tenantId id' now =>
    -- of another resource it would leave this one as it is
    by_contra hid
    obtain ⟨row, -, -, ⟨⟩⟩ := bind_ite_eq_some.1 ha
    exact not_removes_setRow hds (fun heq => absurd heq.symm hid) hr
  | deleteUnprotected tenantId id' | deleteIfShieldGone tenantId id' | reapOnAck tenantId ack =>
    obtain ⟨row, -, -, ⟨⟩⟩ := bind_ite_eq_some.1 ha
    exact not_removes_deleteRow hds _ hr
  | forceDeleteRow tenantId id' =>
    obtain ⟨row, -, hs⟩ := bind_eq_some_iff.1 ha
    cases hs
    exact not_removes_deleteRow hds _ hr
  | reapStaleTombstones now olderThan =>
    cases ha
    refine not_removes_of_same hds (fun row' hr' => ?_) hr
    exact ⟨row', (lookup_retain_eq_some.1 hr').1, rfl, rfl⟩
  | updateShieldHealth sh cid st lanIp =>
    obtain ⟨shield, -, hs⟩ := bind_eq_some_iff.1 ha
    simp only [ite_none_left_eq_some, some.injEq] at hs
    obtain ⟨-, rfl⟩ := hs
    refine not_removes_of_same hds (fun row' hr' => ?_) hr
    rw [lookup_mapValues] at hr'
    obtain ⟨row, hrow, rfl⟩ := map_eq_some_iff.1 hr'
    refine ⟨row, hrow, ?_⟩
    repeat' split
    all_goals exact ⟨rfl, rfl⟩
  | revokeShield sh =>
    obtain ⟨shield, -, hs⟩ := bind_eq_some_iff.1 ha
    cases hs
    exact not_removes_of_desires hds hr
  | updateOnAck tenantId ack now =>
    obtain ⟨result, hs, rfl⟩ := map_eq_some_iff.1 ha
    -- Of the acks for a resource that is to be enforced only odd ones bring it up for
    -- removal.
    unfold ResourceStore.updateOnAck at hs
    obtain ⟨row, -, -, ⟨⟩⟩ := bind_ite_eq_some.1 hs
    by_contra ho
    refine not_removes_setRow hds (fun hid => ?_) hr
    have hst := not_or.1 fun h => ho ⟨hid.symm, h⟩
    simp [ResourceRow.removing, ackedRow, hst]

end Moves

/-! ### Builds -/

abbrev BuildId := ℕ

/-- `snapshot_generation` and `snapshot_fingerprint`; no fingerprint is the empty text. -/
structure Counter where
  generation : ℕ
  fingerprint : Option (List Char)

structure ResourceSetPayload where
  generation : ℕ
  resources : List PendingRow
  removes : List PendingRow

inductive Phase
  | locked (stored : Counter)
  | desired (stored : Counter) (rows : List PendingRow)
  | committed (generation : ℕ) (rows : List PendingRow)
  | signed (payload : ResourceSetPayload)

structure Build where
  shieldId : ShieldId
  phase : Phase

structure State where
  db : Db
  counters : ShieldId → Counter
  locks : ShieldId → Option BuildId
  builds : Map BuildId Build
  /-- history: the desired set at the commit that defines a generation -/
  defining : ShieldId → ℕ → List ResourceId

inductive Action
  | lock (b : BuildId) (shieldId : ShieldId)
  | readDesired (b : BuildId)
  | commit (b : BuildId)
  | readRemoves (b : BuildId)
  | fail (b : BuildId)
  | change (c : Change)

def State.setPhase (s : State) (b : BuildId) (shieldId : ShieldId) (phase : Phase) : State :=
  { s with builds := s.builds.insert b ⟨shieldId, phase⟩ }

def State.setLock (s : State) (shieldId : ShieldId) (holder : Option BuildId) : State :=
  { s with locks := update s.locks shieldId holder }

/-- The UPDATE and the commit. -/
def State.bump (s : State) (shieldId : ShieldId) (generation : ℕ) (fp : List Char) : State :=
  { s with
    counters := update s.counters shieldId ⟨generation, some fp⟩
    defining := update s.defining shieldId
      (update (s.defining shieldId) generation
        ((s.db.desiredForShield shieldId).map PendingRow.id)) }

def step (s : State) : Action → Option State
  | .lock b shieldId =>
    if s.builds.lookup b = none ∧ s.locks shieldId = none ∧ (s.db.shields shieldId).isSome then
      some ((s.setPhase b shieldId (.locked (s.counters shieldId))).setLock shieldId (some b))
    else none
  | .readDesired b =>
    match s.builds.lookup b with
    | some ⟨shieldId, .locked stored⟩ =>
      some (s.setPhase b shieldId (.desired stored (s.db.desiredForShield shieldId)))
    | _ => none
  | .commit b =>
    match s.builds.lookup b with
    | some ⟨shieldId, .desired stored rows⟩ =>
      let fp := fingerprintDesired rows
      if some fp ≠ stored.fingerprint then
        let generation := stored.generation + 1
        some (((s.bump shieldId generation fp).setPhase b shieldId
          (.committed generation rows)).setLock shieldId none)
      else
        some ((s.setPhase b shieldId (.committed stored.generation rows)).setLock shieldId none)
    | _ => none
  | .readRemoves b =>
    match s.builds.lookup b with
    | some ⟨shieldId, .committed generation rows⟩ =>
      some (s.setPhase b shieldId (.signed ⟨generation, rows, s.db.removesForShield shieldId⟩))
    | _ => none
  | .fail b =>
    match s.builds.lookup b with
    | some ⟨shieldId, _⟩ =>
      let holder := if s.locks shieldId = some b then none else s.locks shieldId
      some ({ s with builds := s.builds.erase b }.setLock shieldId holder)
    | none => none
  | .change c =>
    if c.shield.all (fun shieldId => (s.locks shieldId).isNone) then
      (c.apply s.db).map fun db => { s with db := db }
    else none

/-- Any tables; no shield has had a snapshot. -/
def initial (db : Db) : State where
  db := db
  counters _ := ⟨0, none⟩
  locks _ := none
  builds := ∅
  defining _ _ := []

/-- **The property.** In a signed payload nothing is both to be protected and to be removed, and
what is to be protected was desired when the generation was defined. -/
def Consistent (s : State) : Prop :=
  ∀ b shieldId payload, s.builds.lookup b = some ⟨shieldId, .signed payload⟩ →
    (∀ r ∈ payload.resources, ∀ r' ∈ payload.removes, r.id ≠ r'.id) ∧
    ∀ r ∈ payload.resources, r.id ∈ s.defining shieldId payload.generation

/-! ### When nothing listed is moved -/

/-- The tables leave alone what the build has listed: none of it is up for removal, and none has
left the desired set that a commit to come will give a new generation. -/
def Build.Undisturbed (build : Build) (db : Db) : Prop :=
  match build.phase with
  | .desired stored rows => ∀ r ∈ rows, ¬ Removes db build.shieldId r.id ∧
      (some (fingerprintDesired rows) ≠ stored.fingerprint → Desires db build.shieldId r.id)
  | .committed _ rows => ∀ r ∈ rows, ¬ Removes db build.shieldId r.id
  | _ => True

instance (build : Build) (db : Db) : Decidable (build.Undisturbed db) := by
  unfold Build.Undisturbed
  split <;> infer_instance

/-- **The condition.** No change moves a resource that a build has listed, and no desired host has
a line break. -/
def Undisturbed (s : State) : Action → Prop
  | .readDesired b => ∀ build ∈ s.builds.lookup b, PlainHosts (s.db.desiredForShield build.shieldId)
  | .change c => ∀ db ∈ c.apply s.db, ∀ e ∈ s.builds.entries, Build.Undisturbed e.2 db
  | _ => True

instance (s : State) (a : Action) : Decidable (Undisturbed s a) := by
  cases a <;> unfold Undisturbed <;> infer_instance

/-! ### The invariant -/

/-- What holds of a build in each of its phases. -/
def Build.Sound (s : State) (b : BuildId) (build : Build) : Prop :=
  match build.phase with
  | .locked stored => s.locks build.shieldId = some b ∧ s.counters build.shieldId = stored
  | .desired stored rows =>
    s.locks build.shieldId = some b ∧ s.counters build.shieldId = stored ∧ PlainHosts rows ∧
      build.Undisturbed s.db
  | .committed generation rows =>
    generation ≤ (s.counters build.shieldId).generation ∧ build.Undisturbed s.db ∧
      ∀ r ∈ rows, r.id ∈ s.defining build.shieldId generation
  | .signed payload =>
    payload.generation ≤ (s.counters build.shieldId).generation ∧
      (∀ r ∈ payload.resources, ∀ r' ∈ payload.removes, r.id ≠ r'.id) ∧
      ∀ r ∈ payload.resources, r.id ∈ s.defining build.shieldId payload.generation

/-- The stored fingerprint is that of resources which were desired when the generation was
defined. -/
def CounterSound (s : State) (shieldId : ShieldId) : Prop :=
  ∀ fp, (s.counters shieldId).fingerprint = some fp →
    ∃ rows, fingerprintDesired rows = fp ∧ PlainHosts rows ∧
      ∀ r ∈ rows, r.id ∈ s.defining shieldId (s.counters shieldId).generation

structure Inv (s : State) : Prop where
  builds : ∀ b build, s.builds.lookup b = some build → build.Sound s b
  counters : ∀ shieldId, CounterSound s shieldId

/-- What the other builds rely on is as it was. -/
structure Frame (s s' : State) (b : BuildId) : Prop where
  db : s'.db = s.db
  held : ∀ shieldId b', b' ≠ b → s.locks shieldId = some b' →
    s'.locks shieldId = some b' ∧ s'.counters shieldId = s.counters shieldId
  generation : ∀ shieldId, (s.counters shieldId).generation ≤ (s'.counters shieldId).generation
  defining : ∀ shieldId g, g ≤ (s.counters shieldId).generation →
    s'.defining shieldId g = s.defining shieldId g

variable {rows : List PendingRow} {s s' : State} {b b' : BuildId} {stored : Counter} {build : Build}
  {phase : Phase} {t : State}

lemma Build.Sound.frame (hf : Frame s s' b) (hb : b' ≠ b) (h : build.Sound s b') :
    build.Sound s' b' := by
  obtain ⟨k, phase⟩ := build
  cases phase with
  | locked stored =>
    obtain ⟨hl, hs⟩ := h
    obtain ⟨hl', hc⟩ := hf.held k b' hb hl
    exact ⟨hl', hc.trans hs⟩
  | desired stored rows =>
    obtain ⟨hl, hs, hp, hu⟩ := h
    obtain ⟨hl', hc⟩ := hf.held k b' hb hl
    exact ⟨hl', hc.trans hs, hp, by rw [hf.db]; exact hu⟩
  | committed gen rows =>
    obtain ⟨hg, hu, hd⟩ := h
    refine ⟨hg.trans (hf.generation k), by rw [hf.db]; exact hu, ?_⟩
    intro r hr
    rw [hf.defining k gen hg]
    exact hd r hr
  | signed pl =>
    obtain ⟨hg, hds, hd⟩ := h
    refine ⟨hg.trans (hf.generation k), hds, fun r hr => ?_⟩
    rw [hf.defining k pl.generation hg]
    exact hd r hr

lemma Inv.of_frame (h : Inv s) (hf : Frame s s' b)
    (hbl : ∀ b' build, s'.builds.lookup b' = some build →
      b' = b ∧ build.Sound s' b ∨ b' ≠ b ∧ s.builds.lookup b' = some build)
    (hc : ∀ k, CounterSound s' k) : Inv s' := by
  refine ⟨fun b' build hl => ?_, hc⟩
  rcases hbl b' build hl with ⟨rfl, hs⟩ | ⟨hb, hold⟩
  · exact hs
  · exact (h.builds b' build hold).frame hf hb

lemma lookup_setPhase {k} (h : (s.setPhase b k phase).builds.lookup b' = some build) :
    b' = b ∧ build = ⟨k, phase⟩ ∨ b' ≠ b ∧ s.builds.lookup b' = some build :=
  lookup_insert_eq_some.1 h

lemma Inv.setPhase (h : Inv s) {k} (hs : Build.Sound s b ⟨k, phase⟩) :
    Inv (s.setPhase b k phase) := by
  refine h.of_frame (b := b) ⟨rfl, fun _ _ _ hl => ⟨hl, rfl⟩, fun _ => le_rfl,
    fun _ _ _ => rfl⟩ (fun b' build hlk => ?_) h.counters
  rcases lookup_setPhase hlk with ⟨rfl, rfl⟩ | hold
  · exact .inl ⟨rfl, hs⟩
  · exact .inr hold

lemma Inv.desired (h : Inv s) {k} (hl : s.builds.lookup b = some ⟨k, .desired stored rows⟩) :
    s.locks k = some b ∧ s.counters k = stored ∧ PlainHosts rows ∧
      ∀ r ∈ rows, ¬ Removes s.db k r.id ∧
        (some (fingerprintDesired rows) ≠ stored.fingerprint → Desires s.db k r.id) :=
  h.builds b _ hl

lemma held_of_released {k holder} (hl : s.locks k = some b) (hb : b' ≠ b)
    (hh : s.locks sh = some b') : sh ≠ k ∧ update s.locks k holder sh = some b' := by
  have hsh : sh ≠ k := by
    rintro rfl
    exact hb (some.inj (hh.symm.trans hl))
  exact ⟨hsh, (update_of_ne hsh _ _).trans hh⟩

lemma held_of_failed {k} (hb : b' ≠ b) (hh : s.locks sh = some b') :
    update s.locks k (if s.locks k = some b then none else s.locks k) sh =
      some b' := by
  by_cases hsh : sh = k
  · subst hsh
    simp [hh, hb]
  · exact (update_of_ne hsh _ _).trans hh

lemma inv_commit_bump {k} (h : Inv s) (hlk : s.builds.lookup b = some ⟨k, .desired stored rows⟩)
    (hfp : some (fingerprintDesired rows) ≠ stored.fingerprint) :
    Inv (((s.bump k (stored.generation + 1) (fingerprintDesired rows)).setPhase b k
      (.committed (stored.generation + 1) rows)).setLock k none) := by
  obtain ⟨hl, rfl, hp, hu⟩ := h.desired hlk
  have hm : ∀ r ∈ rows, r.id ∈ (s.db.desiredForShield k).map PendingRow.id :=
    fun r hr => mem_desiredForShield.2 ((hu r hr).2 hfp)
  refine h.of_frame (b := b) ⟨rfl, fun sh b' hb hh => ?_, fun sh => ?_, fun sh g hg => ?_⟩
    (fun b' build hlk' => ?_) fun sh => ?_
  · obtain ⟨hsh, hl'⟩ := held_of_released hl hb hh
    exact ⟨hl', update_of_ne hsh _ _⟩
  · by_cases hsh : sh = k
    · subst hsh
      simp [State.setLock, State.setPhase, State.bump]
    · simp [State.setLock, State.setPhase, State.bump, hsh]
  · by_cases hsh : sh = k
    · subst hsh
      have hne : g ≠ (s.counters sh).generation + 1 := by omega
      simp [State.setLock, State.setPhase, State.bump, hne]
    · simp [State.setLock, State.setPhase, State.bump, hsh]
  · rcases lookup_setPhase hlk' with ⟨rfl, rfl⟩ | hold
    · refine .inl ⟨rfl, ?_, fun r hr => (hu r hr).1, fun r hr => ?_⟩
      · simp [State.setLock, State.setPhase, State.bump]
      · simpa [State.setLock, State.setPhase, State.bump] using hm r hr
    · exact .inr hold
  · intro fp hs
    by_cases hsh : sh = k
    · subst hsh
      have hs : fingerprintDesired rows = fp := by
        simpa [State.setLock, State.setPhase, State.bump] using hs
      refine ⟨rows, hs, hp, fun r hr => ?_⟩
      simpa [State.setLock, State.setPhase, State.bump] using hm r hr
    · have hs : (s.counters sh).fingerprint = some fp := by
        simpa [State.setLock, State.setPhase, State.bump, hsh] using hs
      simpa [State.setLock, State.setPhase, State.bump, hsh] using h.counters sh fp hs

lemma inv_step (s : State) (a : Action) (s' : State) (h : Inv s) (hok : Undisturbed s a)
    (hs : step s a = some s') : Inv s' := by
  cases a with
  | lock b k =>
    obtain ⟨⟨-, hf, -⟩, rfl⟩ := ite_some_none_eq_some.1 hs
    refine h.of_frame (b := b) ⟨rfl, fun sh b' _ hlc => ⟨?_, rfl⟩, fun _ => le_rfl,
      fun _ _ _ => rfl⟩ (fun b' build hl => ?_) h.counters
    · have hsh : sh ≠ k := by
        rintro rfl
        cases hf.symm.trans hlc
      exact (update_of_ne hsh _ _).trans hlc
    · rcases lookup_setPhase hl with ⟨rfl, rfl⟩ | hold
      · exact .inl ⟨rfl, update_self _ _ _, rfl⟩
      · exact .inr hold
  | readDesired b =>
    simp only [step] at hs
    split at hs <;> cases hs
    next k stored hl =>
      obtain ⟨hlc, hst⟩ := h.builds b _ hl
      refine h.setPhase ⟨hlc, hst, hok _ hl, fun r hr => ?_⟩
      have hds := mem_desiredForShield.1 (mem_map_of_mem hr)
      exact ⟨not_removes_of_desires hds, fun _ => hds⟩
  | commit b =>
    simp only [step] at hs
    split at hs
    · next k stored rows hl =>
      split at hs
      · next hfp =>
        cases hs
        exact inv_commit_bump h hl hfp
      · next hfp =>
        cases hs
        -- the generation is kept: the stored fingerprint is that of the rows read
        obtain ⟨hlc, rfl, hp, hu⟩ := h.desired hl
        obtain ⟨rows', hfp', hp', hd⟩ := h.counters k _ (not_not.1 hfp).symm
        refine h.of_frame (b := b) ⟨rfl, fun sh b' hb hh =>
          ⟨(held_of_released hlc hb hh).2, rfl⟩, fun _ => le_rfl, fun _ _ _ => rfl⟩
          (fun b' build hl' => ?_) h.counters
        rcases lookup_setPhase hl' with ⟨rfl, rfl⟩ | hold
        · refine .inl ⟨rfl, le_rfl, fun r hr => (hu r hr).1, fun r hr => ?_⟩
          obtain ⟨r', hr', hid⟩ := mem_ids_of_fingerprint_eq hp hp' hfp'.symm hr
          exact hid ▸ hd r' hr'
        · exact .inr hold
    · cases hs
  | readRemoves b =>
    simp only [step] at hs
    split at hs <;> cases hs
    next k gen rows hl =>
      obtain ⟨hg, hu, hd⟩ := h.builds b _ hl
      refine h.setPhase ⟨hg, fun r hr r' hr' hid => ?_, hd⟩
      have hrm := mem_removesForShield.1 (mem_map_of_mem hr')
      exact hu r hr (hid ▸ hrm)
  | fail b =>
    simp only [step] at hs
    split at hs <;> cases hs
    next k phase hl =>
      refine h.of_frame (b := b) ⟨rfl, fun sh b' hb hh => ⟨held_of_failed hb hh, rfl⟩,
        fun _ => le_rfl, fun _ _ _ => rfl⟩ (fun b' build hl' => ?_) h.counters
      obtain ⟨hold, hb⟩ := lookup_erase_eq_some.1 hl'
      exact .inr ⟨hb, hold⟩
  | change c =>
    simp only [step, ite_none_right_eq_some, map_eq_some_iff] at hs
    obtain ⟨-, db, hdb, rfl⟩ := hs
    refine ⟨fun b build hl => ?_, h.counters⟩
    have hu : build.Undisturbed db := hok db hdb ⟨b, build⟩ (AList.mem_lookup_iff.1 hl)
    have hsn := h.builds b build hl
    obtain ⟨k, phase⟩ := build
    cases phase with
    | locked | signed => exact hsn
    | desired stored rows => exact ⟨hsn.1, hsn.2.1, hsn.2.2.1, hu⟩
    | committed gen rows => exact ⟨hsn.1, hu, hsn.2.2⟩

lemma inv_initial (db : Db) : Inv (initial db) where
  builds b build h := by cases h
  counters k fp h := by cases h

lemma Inv.consistent (h : Inv s) : Consistent s := fun b _ _ hl =>
  (h.builds b _ hl).2

/-- **Signed sets are consistent** in every run whose changes leave alone what is listed. -/
theorem consistent_of_undisturbed (db : Db) (acts : List Action) (s : State)
    (hmeets : Meets step Undisturbed (initial db) acts)
    (hrun : exec step (initial db) acts = some s) : Consistent s :=
  (exec_inv_of_meets inv_step (inv_initial db) hmeets hrun).consistent

/-! ### One resource behind one shield -/

def printer : ResourceId := ⟨"r1", plain_r1⟩

def protectedPrinter : Db where
  resources := AList.singleton printer
    ⟨"ws", "rn1", "printer", "10.0.0.5", .tcp, 631, 631, .protected_, .apply, none, none, none, 0,
      some "s1"⟩
  shields id :=
    if id = "s1" then some ⟨"ws", "rn1", "c1", some "10.0.0.5", .active, false⟩ else none
  networks id := if id = "rn1" then some ("ws", "office") else none
  rules := []

theorem startsRemoval_of_removes_printer :
    (Change.markUnprotecting "ws" printer 1).StartsRemoval printer := by
  obtain ⟨db, hdb, hr⟩ : ∃ db, Change.apply protectedPrinter (.markUnprotecting "ws" printer 1) =
      some db ∧ Removes db "s1" printer := ⟨_, rfl, by decide⟩
  exact startsRemoval_of_removes hdb (by decide) hr

/-- The resource is unprotected between two builds. -/
def unprotectBetween : List Action :=
  [.lock 0 "s1", .readDesired 0, .commit 0, .readRemoves 0,
    .change (.markUnprotecting "ws" printer 1),
    .lock 1 "s1", .readDesired 1, .commit 1, .readRemoves 1]

theorem consistent_unprotectBetween :
    Meets step Undisturbed (initial protectedPrinter) unprotectBetween ∧
      ∃ s, exec step (initial protectedPrinter) unprotectBetween = some s ∧ Consistent s := by
  have hm : Meets step Undisturbed (initial protectedPrinter) unprotectBetween := by decide
  exact ⟨hm, _, rfl, consistent_of_undisturbed _ _ _ hm rfl⟩

/-- The resource is unprotected within a build, after its transaction. -/
def unprotectWithin : List Action :=
  [.lock 0 "s1", .readDesired 0, .commit 0, .change (.markUnprotecting "ws" printer 1),
    .readRemoves 0]

/-- One payload has the resource among those to protect and among those to remove. -/
theorem unprotectWithin_both :
    ∃ s payload, exec step (initial protectedPrinter) unprotectWithin = some s ∧
      s.builds.lookup 0 = some ⟨"s1", .signed payload⟩ ∧
      payload.resources.map PendingRow.id = [printer] ∧
      payload.removes.map PendingRow.id = [printer] ∧ ¬ Consistent s := by
  refine ⟨_, _, rfl, rfl, rfl, rfl, fun h => ?_⟩
  exact (h 0 "s1" _ rfl).1 _ mem_cons_self _ mem_cons_self rfl

/-! ### Generations -/

/-- What the build holds while it has the lock. -/
def Build.Held (s : State) (b : BuildId) (build : Build) : Prop :=
  match build.phase with
  | .locked stored | .desired stored _ =>
    s.locks build.shieldId = some b ∧ s.counters build.shieldId = stored
  | _ => True

def Held (s : State) : Prop := ∀ b build, s.builds.lookup b = some build → build.Held s b

/-- The two columns stay, or the generation goes up. -/
def Rises (shieldId : ShieldId) (s s' : State) : Prop :=
  s'.counters shieldId = s.counters shieldId ∨
    (s.counters shieldId).generation < (s'.counters shieldId).generation

lemma Rises.trans {k} (h : Rises k s t) (h' : Rises k t s') : Rises k s s' := by
  rcases h' with heq | hlt
  · rwa [Rises, heq]
  · rcases h with heq | hlt'
    · exact .inr (heq ▸ hlt)
    · exact .inr (hlt'.trans hlt)

lemma Held.of_frame (h : Held s)
    (hf : ∀ sh b', b' ≠ b → s.locks sh = some b' →
      s'.locks sh = some b' ∧ s'.counters sh = s.counters sh)
    (hbl : ∀ b' build, s'.builds.lookup b' = some build →
      b' = b ∧ build.Held s' b ∨ b' ≠ b ∧ s.builds.lookup b' = some build) : Held s' := by
  intro b' build hlk
  rcases hbl b' build hlk with ⟨rfl, hh⟩ | ⟨hb, hold⟩
  · exact hh
  · have hh := h b' build hold
    obtain ⟨k, phase⟩ := build
    cases phase with
    | locked | desired =>
      obtain ⟨hl, hs⟩ := hh
      obtain ⟨hl', hc⟩ := hf k b' hb hl
      exact ⟨hl', hc.trans hs⟩
    | committed | signed => trivial

/-- **One step.** Who holds the lock has what the row holds, so that a commit goes up from there. -/
lemma held_step (s : State) (a : Action) (s' : State) (h : Held s) (hs : step s a = some s') :
    Held s' ∧ ∀ sh, Rises sh s s' := by
  cases a with
  | lock b k =>
    obtain ⟨⟨-, hf, -⟩, rfl⟩ := ite_some_none_eq_some.1 hs
    refine ⟨h.of_frame (b := b) (fun sh b' _ hlc => ⟨?_, rfl⟩) fun b' build hl => ?_,
      fun _ => .inl rfl⟩
    · refine (update_of_ne ?_ _ _).trans hlc
      rintro rfl
      cases hf.symm.trans hlc
    · rcases lookup_setPhase hl with ⟨rfl, rfl⟩ | hold
      · exact .inl ⟨rfl, update_self _ _ _, rfl⟩
      · exact .inr hold
  | readDesired b =>
    simp only [step] at hs
    split at hs <;> cases hs
    next k stored hl => exact ⟨forall_lookup_insert h (h b _ hl), fun _ => .inl rfl⟩
  | commit b =>
    simp only [step] at hs
    split at hs
    · next k stored rows hl =>
      obtain ⟨hlc, hst⟩ := h b _ hl
      split at hs
      · cases hs
        refine ⟨h.of_frame (b := b) (fun sh b' hb hh => ?_) fun b' build hl' => ?_, fun sh => ?_⟩
        · obtain ⟨hsh, hlc'⟩ := held_of_released hlc hb hh
          exact ⟨hlc', update_of_ne hsh _ _⟩
        · exact (lookup_setPhase hl').imp_left fun ⟨hb, hbl⟩ => ⟨hb, by subst hbl; trivial⟩
        · by_cases hsh : sh = k
          · subst hsh
            exact .inr (by simp [State.setLock, State.setPhase, State.bump, ← hst])
          · exact .inl (update_of_ne hsh _ _)
      · cases hs
        refine ⟨h.of_frame (b := b) (fun sh b' hb hh => ?_) fun b' build hl' => ?_,
          fun _ => .inl rfl⟩
        · exact ⟨(held_of_released hlc hb hh).2, rfl⟩
        · exact (lookup_setPhase hl').imp_left fun ⟨hb, hbl⟩ => ⟨hb, by subst hbl; trivial⟩
    · cases hs
  | readRemoves b =>
    simp only [step] at hs
    split at hs <;> cases hs
    exact ⟨forall_lookup_insert h trivial, fun _ => .inl rfl⟩
  | fail b =>
    simp only [step] at hs
    split at hs <;> cases hs
    next k phase hl =>
      refine ⟨h.of_frame (b := b) (fun sh b' hb hh => ⟨held_of_failed hb hh, rfl⟩)
        fun b' build hl' => ?_, fun _ => .inl rfl⟩
      obtain ⟨hold, hb⟩ := lookup_erase_eq_some.1 hl'
      exact .inr ⟨hb, hold⟩
  | change c =>
    simp only [step, ite_none_right_eq_some, map_eq_some_iff] at hs
    obtain ⟨-, db, -, rfl⟩ := hs
    exact ⟨h, fun _ => .inl rfl⟩

/-- After the actions the build's commit gives out a generation of rows whose hosts have no
separators. -/
structure Commits (s : State) (acts : List Action) (b : BuildId) (t : State) (shieldId : ShieldId)
    (generation : ℕ) (rows : List PendingRow) : Prop where
  run : exec step s (acts ++ [.commit b]) = some t
  build : t.builds.lookup b = some ⟨shieldId, .committed generation rows⟩
  hosts : CleanHosts rows

lemma Commits.leaves {acts : List Action} {k : ShieldId} {g : ℕ} (h : Held s)
    (hc : Commits s acts b t k g rows) :
    Held t ∧ t.counters k = ⟨g, some (fingerprintDesired rows)⟩ ∧ Rises k s t := by
  obtain ⟨hrun, hbl, -⟩ := hc
  rw [exec_append] at hrun
  obtain ⟨u, hu, hl⟩ := bind_eq_some_iff.1 hrun
  obtain ⟨t', ht, hn⟩ := exec_cons_some step hl
  cases hn
  have hst : ∀ v a v', Held v ∧ Rises k s v → step v a = some v' → Held v' ∧ Rises k s v' := by
    rintro v a v' ⟨hh, hr⟩ hv
    obtain ⟨hh', hr'⟩ := held_step v a v' hh hv
    exact ⟨hh', hr.trans (hr' k)⟩
  have hb := exec_inv hst ⟨h, .inl rfl⟩ hu
  obtain ⟨hh, hr⟩ := hst u _ _ hb ht
  refine ⟨hh, ?_, hr⟩
  simp only [step] at ht
  split at ht
  · next sh stored rows' hlk =>
    obtain ⟨-, hs⟩ := hb.1 b _ hlk
    split at ht
    · cases ht
      cases (AList.lookup_insert _).symm.trans hbl
      exact update_self _ _ _
    · next hfp =>
      cases ht
      cases (AList.lookup_insert _).symm.trans hbl
      exact hs.trans (congrArg (Counter.mk _) (not_not.1 hfp).symm)
  · cases ht

/-- **A generation identifies its content.** Of two commits for a shield in one run, those of one
generation have the same content, and if the content differs the later has the higher
generation. -/
theorem generation_identifies (db : Db) {acts acts' : List Action} {s t : State} {b b' : BuildId}
    {shieldId : ShieldId} {g g' : ℕ} {rows rows' : List PendingRow}
    (h : Commits (initial db) acts b s shieldId g rows)
    (h' : Commits s acts' b' t shieldId g' rows') :
    (g = g' → rows.Perm rows') ∧ (¬ rows.Perm rows' → g < g') := by
  obtain ⟨hh, hc, -⟩ := h.leaves (by rintro _ _ ⟨⟩)
  obtain ⟨-, hc', hr⟩ := h'.leaves hh
  rw [Rises, hc, hc'] at hr
  rcases hr with heq | hlt
  · obtain ⟨rfl, hfp⟩ := Counter.mk.inj heq
    have hs := perm_of_fingerprint_eq h.hosts h'.hosts (some.inj hfp).symm
    exact ⟨fun _ => hs, fun hne => absurd hs hne⟩
  · exact ⟨fun heq => absurd heq hlt.ne, fun _ => hlt⟩

/-- The resource is unprotected between the two commits. -/
theorem generation_identifies_unprotect :
    ∃ s t row, Commits (initial protectedPrinter) [.lock 0 "s1", .readDesired 0] 0 s "s1" 1 [row] ∧
      Commits s [.change (.markUnprotecting "ws" printer 1), .lock 1 "s1", .readDesired 1] 1 t "s1"
        2 [] ∧ 1 < 2 := by
  have hl {acts acts' s t row} (h : Commits (initial protectedPrinter) acts 0 s "s1" 1 [row])
      (h' : Commits s acts' 1 t "s1" 2 []) :=
    And.intro h (And.intro h' ((generation_identifies _ h h').2 (by simp)))
  refine ⟨_, _, ⟨printer, "10.0.0.5", .tcp, 631, 631⟩, hl ⟨rfl, rfl, ?_⟩ ⟨rfl, rfl, ?_⟩⟩
  · unfold CleanHosts
    decide
  · simp [CleanHosts]

end Zecurity.SignedResourceSets
