import Mathlib.Data.List.Sort
import Zecurity.FiniteMap
import Zecurity.Runs

/-!
Draining relays (`controller/internal/relay/drain.go`, with `eligible/eligible.go` and
`EvictRelays`, `RecordHeartbeat`, `EvaluateCapacityLabel` of `store.go`).

The rows of a state are the committed ones. A query with `FOR UPDATE` takes the ids of its rows from
a snapshot and locks them in their order, each as soon as nobody else has it. The row is then looked
at again; where it no longer satisfies the condition of the query it stays locked and is not
returned. A transaction on one row is one step, at a time when the row is free.
-/

namespace Zecurity.RelayDrain

open FiniteMap Function Option Runs

/-! ### The relays -/

abbrev RelayId := String
abbrev TxId := ℕ
abbrev Time := ℕ

inductive Status
  | pending
  | active
  | inactive
  | revoked
  | deleted
deriving DecidableEq

inductive CapacityLabel
  | high
  | medium
  | low
deriving DecidableEq

structure Row where
  status : Status
  capacityLabel : CapacityLabel
  drainStartedAt : Option Time
  publicAddr : Option String
  addressScope : Option String
  observedIp : Option String
  lastHeartbeatAt : Option Time

def Row.eligible (r : Row) : Bool :=
  r.status = .active ∧ r.capacityLabel ∈ [.high, .medium] ∧ r.drainStartedAt = none ∧
    (r.publicAddr.any (· ≠ "") ∨ r.addressScope = some "public" ∧ r.observedIp.isSome)

def nullIfEmpty (text : String) : Option String := if text = "" then none else some text

/-- The transactions on one row. The label is the one that the hysteresis arrives at. -/
inductive Write
  | resumeRelay
  | recordHeartbeat (observedIp addressScope publicAddr : String) (now : Time)
  | evaluateCapacityLabel (label : CapacityLabel)

def Write.apply (r : Row) : Write → Row
  | .resumeRelay =>
    if r.status = .deleted ∨ r.status = .revoked then r else { r with drainStartedAt := none }
  | .recordHeartbeat observedIp addressScope publicAddr now =>
    if r.status = .deleted ∨ r.status = .revoked then r
    else
      { r with
        status := .active
        observedIp := nullIfEmpty observedIp
        addressScope := nullIfEmpty addressScope
        publicAddr := nullIfEmpty publicAddr
        lastHeartbeatAt := some now }
  | .evaluateCapacityLabel label =>
    if r.status = .deleted then r else { r with capacityLabel := label }

/-! ### Transactions on several rows -/

inductive Call
  | drainRelay (id : RelayId)
  | evictRelays (ids : List RelayId) (before : Time)

/-- The condition of the call's query. -/
def Call.selects (call : Call) (id : RelayId) (r : Row) : Bool :=
  match call with
  | .drainRelay target => id = target ∨ r.eligible
  | .evictRelays ids before => id ∈ ids ∧ r.status = .active ∧ r.lastHeartbeatAt.any (· < before)

structure Tx where
  call : Call
  todo : List RelayId
  rows : Map RelayId Row

structure State where
  relays : Map RelayId Row
  locks : RelayId → Option TxId
  txs : Map TxId Tx

def start (relays : Map RelayId Row) : State := ⟨relays, fun _ => none, ∅⟩

/-- What `DrainRelay` decides on the rows that it has locked: `false` where the relay is draining
already. -/
def drainRelay (id : RelayId) (rows : Map RelayId Row) : Except String Bool :=
  match rows.lookup id with
  | none => .error "relay not found"
  | some target =>
    match target.status with
    | .deleted => .error "relay already deleted"
    | .revoked => .error "relay already revoked"
    | .pending => .error "relay is not enrolled"
    | .active | .inactive =>
      if target.drainStartedAt.isSome then .ok false
      else if target.eligible ∧ count rows Row.eligible = 1 then
        .error "relay is the last eligible relay"
      else .ok true

namespace State

variable (s : State)

def query (call : Call) : List RelayId :=
  (retain s.relays call.selects).keys.insertionSort (· ≤ ·)

/-- The row is locked, and returned where it satisfies the condition now. -/
def lockNext (x : TxId) (call : Call) (id : RelayId) (todo : List RelayId)
    (rows : Map RelayId Row) : State :=
  let rows' := match (s.relays.lookup id).filter (call.selects id) with
    | some r => rows.insert id r
    | none => rows
  { s with locks := update s.locks id (some x), txs := s.txs.insert x ⟨call, todo, rows'⟩ }

/-- The transaction ends, and leaves these rows. -/
def finish (x : TxId) (relays : Map RelayId Row) : State where
  relays
  locks := fun id => if s.locks id = some x then none else s.locks id
  txs := s.txs.erase x

end State

inductive Action
  | begin_ (x : TxId) (call : Call)
  | lock (x : TxId)
  /-- `DrainRelay` decides; `stored` tells whether its audit row and its commit succeed -/
  | drain (x : TxId) (now : Time) (stored : Bool)
  | evict (x : TxId)
  | rollback (x : TxId)
  | write (id : RelayId) (w : Write)

def step (s : State) : Action → Option State
  | .begin_ x call =>
    if s.txs.lookup x = none then
      some { s with txs := s.txs.insert x ⟨call, s.query call, ∅⟩ }
    else none
  | .lock x =>
    match s.txs.lookup x with
    | some ⟨call, id :: todo, rows⟩ =>
      if s.locks id = none then some (s.lockNext x call id todo rows) else none
    | _ => none
  | .drain x now stored =>
    match s.txs.lookup x with
    | some ⟨.drainRelay id, [], rows⟩ =>
      match drainRelay id rows, stored with
      | .ok true, true =>
        some (s.finish x (updateWhere s.relays (fun k _ => k = id)
          fun r => { r with drainStartedAt := some now }))
      | _, _ => some (s.finish x s.relays)
    | _ => none
  | .evict x =>
    match s.txs.lookup x with
    | some ⟨.evictRelays _ _, [], rows⟩ =>
      some (s.finish x (updateWhere s.relays (fun k _ => k ∈ rows)
        fun r => { r with status := .inactive }))
    | _ => none
  | .rollback x => some (s.finish x s.relays)
  | .write id w =>
    if s.locks id = none then
      some { s with relays := updateWhere s.relays (fun k _ => k = id) w.apply }
    else none

/-! ### Locked rows -/

/-- What a query has returned is locked, and the row is still as it was. -/
def Held (s : State) (x : TxId) (rows : Map RelayId Row) : Prop :=
  ∀ k r, rows.lookup k = some r → s.locks k = some x ∧ s.relays.lookup k = some r

def Inv (s : State) : Prop := ∀ x tx, s.txs.lookup x = some tx → Held s x tx.rows

variable {s s' : State} {a : Action} {x : TxId} {id : RelayId} {todo : List RelayId}
  {rows : Map RelayId Row} {call : Call} {target : Row}

lemma Held.frame (h : Held s x rows) (hk : ∀ k, s.locks k = some x →
    s'.locks k = some x ∧ s'.relays.lookup k = s.relays.lookup k) : Held s' x rows := by
  intro k r hr
  obtain ⟨hl, hrow⟩ := h k r hr
  obtain ⟨hl', hr'⟩ := hk k hl
  exact ⟨hl', hr'.trans hrow⟩

lemma Inv.lockNext (h : Inv s) (hx : s.txs.lookup x = some ⟨call, id :: todo, rows⟩)
    (hf : s.locks id = none) : Inv (s.lockNext x call id todo rows) := by
  -- nobody held the row
  have hkp : ∀ {y rows}, Held s y rows → Held (s.lockNext x call id todo rows) y rows := by
    refine fun hh => hh.frame fun k hk => ⟨(update_of_ne ?_ ..).trans hk, rfl⟩
    rintro rfl
    cases hf.symm.trans hk
  intro y tx hy
  rcases lookup_insert_eq_some.1 hy with ⟨rfl, rfl⟩ | ⟨-, hy⟩
  · dsimp only
    split
    · next r hr =>
      refine forall_lookup_insert (hkp (h _ _ hx)) ⟨update_self .., ?_⟩
      exact (filter_eq_some_iff.1 hr).1
    · exact hkp (h _ _ hx)
  · exact hkp (h y tx hy)

lemma Inv.finish (h : Inv s) {rs}
    (hkp : ∀ k, s.locks k ≠ some x → rs.lookup k = s.relays.lookup k) : Inv (s.finish x rs) := by
  intro y tx hy
  obtain ⟨hy, hne⟩ := lookup_erase_eq_some.1 hy
  refine (h y tx hy).frame fun k hk => ?_
  have ho : s.locks k ≠ some x := by
    rw [hk]
    exact fun heq => hne (some.inj heq)
  exact ⟨(if_neg ho).trans hk, hkp k ho⟩

lemma lookup_updateWhere_of_not {p : RelayId → Prop} [DecidablePred p] {f : Row → Row}
    (m : Map RelayId Row) (h : ¬ p id) :
    (updateWhere m (fun k _ => p k) f).lookup id = m.lookup id := by
  simp [lookup_updateWhere, h]

lemma drainRelay_eq_ok (h : drainRelay id rows = .ok true) :
    ∃ target, rows.lookup id = some target ∧
      ¬ (target.eligible = true ∧ count rows Row.eligible = 1) := by
  unfold drainRelay at h
  grind

lemma inv_step (h : Inv s) (hs : step s a = some s') : Inv s' := by
  cases a <;> dsimp only [step] at hs
  case begin_ x call =>
    obtain ⟨-, rfl⟩ := ite_some_none_eq_some.1 hs
    exact forall_lookup_insert h (by rintro _ _ ⟨⟩)
  case lock x =>
    split at hs
    · next hx =>
      obtain ⟨hf, rfl⟩ := ite_some_none_eq_some.1 hs
      exact h.lockNext hx hf
    · cases hs
  case drain x now stored =>
    split at hs
    · next id rows hx =>
      split at hs
      · next hok =>
        cases hs
        obtain ⟨target, ht, -⟩ := drainRelay_eq_ok hok
        refine h.finish fun k hk => lookup_updateWhere_of_not _ ?_
        rintro rfl
        exact hk (h x _ hx _ _ ht).1
      · cases hs
        exact h.finish fun _ _ => rfl
    · cases hs
  case evict x =>
    split at hs <;> cases hs
    next rows hx =>
      refine h.finish fun k hk => lookup_updateWhere_of_not _ fun hm => ?_
      obtain ⟨r, hr⟩ := isSome_iff_exists.1 (AList.lookup_isSome.2 hm)
      exact hk (h x _ hx k r hr).1
  case rollback x =>
    cases hs
    exact h.finish fun _ _ => rfl
  case write id w =>
    obtain ⟨hf, rfl⟩ := ite_some_none_eq_some.1 hs
    refine fun y tx hy => (h y tx hy).frame fun k hk => ⟨hk, lookup_updateWhere_of_not _ ?_⟩
    rintro rfl
    cases hf.symm.trans hk

/-! ### The pool -/

def Pooled (s : State) : Prop := ∃ id r, s.relays.lookup id = some r ∧ r.eligible = true

lemma exists_other (ht : rows.lookup id = some target) (hel : target.eligible = true)
    (hc : count rows Row.eligible ≠ 1) :
    ∃ k r, rows.lookup k = some r ∧ r.eligible = true ∧ k ≠ id := by
  by_contra! hnn
  have hm : ⟨id, target⟩ ∈ rows.entries := AList.mem_lookup_iff.1 ht
  rw [count, List.countP_eq_length_filter] at hc
  have ha : ∀ e ∈ rows.entries.filter (·.2.eligible), e = ⟨id, target⟩ := by
    rintro ⟨k, r⟩ he
    obtain ⟨he, hr⟩ := List.mem_filter.1 he
    have hk := AList.mem_lookup_iff.2 he
    obtain rfl := hnn k r hk hr
    cases ht.symm.trans hk
    rfl
  have hn := rows.nodupKeys.nodup.filter (·.2.eligible)
  rw [List.eq_replicate_of_mem ha, List.nodup_replicate] at hn
  have hp : 0 < (rows.entries.filter (·.2.eligible)).length :=
    List.length_pos_of_mem (List.mem_filter.2 ⟨hm, hel⟩)
  omega

lemma pooled_of_drained {now} (hh : Held s x rows) (hok : drainRelay id rows = .ok true)
    (hp : Pooled s) :
    Pooled (s.finish x (updateWhere s.relays (fun k _ => k = id)
      fun r => { r with drainStartedAt := some now })) := by
  obtain ⟨target, ht, hn⟩ := drainRelay_eq_ok hok
  -- an eligible relay beside the drained one
  obtain ⟨k, r, hk, hr, hne⟩ : ∃ k r, s.relays.lookup k = some r ∧ r.eligible = true ∧ k ≠ id := by
    by_cases he : target.eligible = true
    · obtain ⟨k, r, hk, hr, hne⟩ := exists_other ht he fun hc => hn ⟨he, hc⟩
      exact ⟨k, r, (hh k r hk).2, hr, hne⟩
    · obtain ⟨k, r, hk, hr⟩ := hp
      refine ⟨k, r, hk, hr, ?_⟩
      rintro rfl
      cases hk.symm.trans (hh _ _ ht).2
      exact he hr
  exact ⟨k, r, (lookup_updateWhere_of_not (p := (· = id)) _ hne).trans hk, hr⟩

/-- A drain leaves an eligible relay where there was one, and it changes no row unless it marks the
relay. -/
def DrainsSafely (s : State) (a : Action) (s' : State) : Prop :=
  ∀ x now stored, a = .drain x now stored →
    (Pooled s → Pooled s') ∧
    ∀ id rows, s.txs.lookup x = some ⟨.drainRelay id, [], rows⟩ → drainRelay id rows ≠ .ok true →
      s'.relays = s.relays

lemma drainsSafely (h : Inv s) (hs : step s a = some s') : DrainsSafely s a s' := by
  rintro x now old rfl
  dsimp only [step] at hs
  split at hs
  · next id rows hx =>
    split at hs
    · next hok =>
      cases hs
      refine ⟨pooled_of_drained (h x _ hx) hok, fun id' rows' hx' hn => ?_⟩
      cases hx.symm.trans hx'
      exact absurd hok hn
    · cases hs
      exact ⟨fun hp => hp, fun _ _ _ _ => rfl⟩
  · cases hs

theorem drains_keep_pool (relays : Map RelayId Row) (acts : List Action) :
    Always step DrainsSafely (start relays) acts :=
  always_of_inv (I := Inv) (fun _ _ _ h hs => inv_step h hs) (fun _ _ _ h hs => drainsSafely h hs)
    nofun

end Zecurity.RelayDrain
