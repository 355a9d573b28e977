import Zecurity.Compiler
import Zecurity.ConnectorRow
import Zecurity.Runs
import Zecurity.StateFile

/-!
Issuing a shield's peer list (`controller/internal/connector/peer_list.go`).

`readPayload` holds the issuer's mutex from picking `issued_at` to recording it, with two reads of
the database in between; signing comes after. The progress of the call that holds the mutex is
part of the mutex. Other goroutines change the database at any point, and the clock may go
back. Milliseconds are far from the bounds of the machine integers.
-/

namespace Zecurity.PeerListIssuer

open Compiler StateFile Runs List

/-! ### The database -/

structure ShieldRow where
  id : String
  tenantId : String
  remoteNetworkId : String

structure WorkspaceRow where
  id : String
  trustDomain : Option String

structure MemberRow where
  id : String
  lanAddr : Option String
  remoteNetworkId : String
  tenantId : String
  status : ConnectorRow.Status
  revokedAt : Bool

structure Db where
  shields : List ShieldRow
  workspaces : List WorkspaceRow
  connectors : List MemberRow

/-- What the first query gives. -/
structure Located where
  tenantId : String
  trustDomain : String
  remoteNetworkId : String

/-- The first query; `fault` is the error of a call that fails. -/
def loadShield (db : Db) (shieldId : String) (fault : Option String) : Except String Located :=
  let failed err := "peer list: load shield " ++ shieldId ++ ": " ++ err
  match fault with
  | some err => .error (failed err)
  | none =>
    match db.shields.find? fun s => s.id = shieldId with
    | none => .error (failed "no rows in result set")
    | some s =>
      match db.workspaces.find? fun w => w.id = s.tenantId with
      | none => .error (failed "no rows in result set")
      | some w =>
        let trustDomain := w.trustDomain.getD ""
        if trustDomain = "" then
          .error ("peer list: shield " ++ shieldId ++ ": workspace has no trust domain")
        else .ok ⟨s.tenantId, trustDomain, s.remoteNetworkId⟩

/-- The rows of the second query, in the order of their ids. -/
def members (db : Db) (located : Located) : List MemberRow :=
  (db.connectors.filter fun c =>
    c.remoteNetworkId = located.remoteNetworkId ∧ c.tenantId = located.tenantId ∧
      (c.status = .active ∨ c.status = .disconnected) ∧ ¬ c.revokedAt).insertionSort
    fun a b => a.id ≤ b.id

def shieldGrpcPort : String := "9091"

/-- The address that a shield dials, or `""` without a host. -/
def shieldFacingAddr (lanAddr : String) : String :=
  let host := (splitHost lanAddr).getD lanAddr
  if host = "" then "" else joinHostPort host shieldGrpcPort

/-- The peers of the list: the connectors with an address. -/
def peers (rows : List MemberRow) : List ConnectorRef :=
  rows.filterMap fun c =>
    let addr := shieldFacingAddr (c.lanAddr.getD "")
    if addr = "" then none else some ⟨c.id, addr⟩

def queryConnectors (db : Db) (located : Located) (shieldId : String) (issuedAt : Int)
    (fault : Option String) : Except String PeerListPayload :=
  match fault with
  | some err => .error ("peer list: connectors for shield " ++ shieldId ++ ": " ++ err)
  | none =>
    .ok {
      trustDomain := located.trustDomain
      shieldId := shieldId
      issuedAtUnixMs := issuedAt.toNat
      peers := peers (members db located) }

/-! ### The issuer -/

/-- How far the call is that holds the mutex. `readAt` is when its first read was made. -/
inductive Progress
  | picked
  | located (row : Located) (readAt : ℕ)
  | read (payload : PeerListPayload) (readAt : ℕ)

structure Holder where
  shieldId : String
  issuedAt : Int
  progress : Progress

/-- A payload that `readPayload` returned, with when it was read and when it was done, and
whether it was signed, once that is known. -/
structure Issue where
  payload : PeerListPayload
  readAt : ℕ
  issuedAt : ℕ
  signature : Option Bool

/-- `clock` counts the steps. -/
structure State where
  clock : ℕ
  db : Db
  mu : Option Holder
  lastMs : Int
  issues : List Issue
  errors : List String

inductive Action
  | commit (db : Db)
  | lock (shieldId : String) (now : Int)
  | loadShield (fault : Option String)
  | queryConnectors (fault : Option String)
  | finish
  /-- sign the `idx`-th of the payloads, if that was not done yet -/
  | sign (idx : ℕ) (fault : Option String)

def pickIssuedAt (now lastMs : Int) : Int := if now ≤ lastMs then lastMs + 1 else now

/-- The `idx`-th payload is signed, or its signing failed. -/
def signed (issues : List Issue) (idx : ℕ) (ok : Bool) : List Issue :=
  issues.modify idx fun i => { i with signature := some ok }

/-- What an action does to the issuer, the clock apart. -/
def act (s : State) : Action → Option State
  | .commit db => some { s with db := db }
  | .lock shieldId now =>
    match s.mu with
    | some _ => none
    | none => some { s with mu := some ⟨shieldId, pickIssuedAt now s.lastMs, .picked⟩ }
  | .loadShield fault =>
    match s.mu with
    | some ⟨shieldId, issuedAt, .picked⟩ =>
      match loadShield s.db shieldId fault with
      | .error err => some { s with mu := none, errors := err :: s.errors }
      | .ok row => some { s with mu := some ⟨shieldId, issuedAt, .located row s.clock⟩ }
    | _ => none
  | .queryConnectors fault =>
    match s.mu with
    | some ⟨shieldId, issuedAt, .located row readAt⟩ =>
      match queryConnectors s.db row shieldId issuedAt fault with
      | .error err => some { s with mu := none, errors := err :: s.errors }
      | .ok payload => some { s with mu := some ⟨shieldId, issuedAt, .read payload readAt⟩ }
    | _ => none
  | .finish =>
    match s.mu with
    | some ⟨_, issuedAt, .read payload readAt⟩ =>
      some { s with
        mu := none
        lastMs := issuedAt
        issues := ⟨payload, readAt, s.clock, none⟩ :: s.issues }
    | _ => none
  | .sign idx fault =>
    if (s.issues[idx]?).any fun i => i.signature.isNone then
      some { s with
        issues := signed s.issues idx fault.isNone
        errors := (fault.map fun err => "peer list: " ++ err).toList ++ s.errors }
    else none

def step (s : State) (a : Action) : Option State :=
  (act s a).map fun s' => { s' with clock := s.clock + 1 }

def start (db : Db) : State := ⟨0, db, none, 0, [], []⟩

/-- The lists that were sent: the payloads that were signed. -/
def issued (s : State) : List Issue := s.issues.filter fun i => i.signature = some true

/-- Two lists have different times, and the one with the later time was read after the other
was issued. -/
def Apart (i j : Issue) : Prop :=
  i.payload.issuedAtUnixMs ≠ j.payload.issuedAtUnixMs ∧
    (i.payload.issuedAtUnixMs < j.payload.issuedAtUnixMs → i.issuedAt < j.readAt) ∧
    (j.payload.issuedAtUnixMs < i.payload.issuedAtUnixMs → j.issuedAt < i.readAt)

/-! ### The order of the lists -/

/-- A list and one that was issued before it. -/
def After (later earlier : Issue) : Prop :=
  earlier.payload.issuedAtUnixMs < later.payload.issuedAtUnixMs ∧ earlier.issuedAt < later.readAt

variable {db : Db} {s : State} {errors : List String}

lemma apart_of_after {i j} (h : After i j) : Apart i j :=
  ⟨Nat.ne_of_gt h.1, fun hlt => absurd hlt (Nat.lt_asymm h.1), fun _ => h.2⟩

/-- The call that holds the mutex is ahead of every list so far. -/
def Ahead (s : State) (issuedAt : Int) : Progress → Prop
  | .picked => True
  | .located _ readAt => ∀ i ∈ s.issues, i.issuedAt < readAt
  | .read payload readAt =>
    (payload.issuedAtUnixMs : Int) = issuedAt ∧ ∀ i ∈ s.issues, i.issuedAt < readAt

structure Inv (s : State) : Prop where
  nonneg : 0 ≤ s.lastMs
  recorded : ∀ i ∈ s.issues, (i.payload.issuedAtUnixMs : Int) ≤ s.lastMs ∧ i.issuedAt < s.clock
  inOrder : s.issues.Pairwise After
  holder : ∀ h, s.mu = some h → s.lastMs < h.issuedAt ∧ Ahead s h.issuedAt h.progress

lemma inv_start (db : Db) : Inv (start db) where
  nonneg := le_rfl
  recorded := nofun
  inOrder := .nil
  holder := nofun

lemma lastMs_lt_pickIssuedAt (now lastMs : Int) : lastMs < pickIssuedAt now lastMs := by
  unfold pickIssuedAt
  split <;> omega

lemma queryConnectors_issuedAt {row sid issuedAt fault pl} (hp : 0 < issuedAt)
    (h : queryConnectors db row sid issuedAt fault = .ok pl) :
    (pl.issuedAtUnixMs : Int) = issuedAt := by
  unfold queryConnectors at h
  split at h <;> cases h
  exact Int.toNat_of_nonneg hp.le

lemma Inv.onward (hinv : Inv s) {mu}
    (h : ∀ h, mu = some h → s.lastMs < h.issuedAt ∧ Ahead s h.issuedAt h.progress) :
    Inv ⟨s.clock + 1, db, mu, s.lastMs, s.issues, errors⟩ where
  nonneg := hinv.nonneg
  recorded := fun i hi => ⟨(hinv.recorded i hi).1, Nat.lt_succ_of_lt (hinv.recorded i hi).2⟩
  inOrder := hinv.inOrder
  holder := h

lemma Inv.release (hi : Inv s) : Inv ⟨s.clock + 1, db, none, s.lastMs, s.issues, errors⟩ :=
  hi.onward (by simp)

lemma Inv.hold (hi : Inv s) {h} (hlt : s.lastMs < h.issuedAt) (ha : Ahead s h.issuedAt h.progress) :
    Inv ⟨s.clock + 1, db, some h, s.lastMs, s.issues, errors⟩ := by
  refine hi.onward fun h' hmu => ?_
  cases hmu
  exact ⟨hlt, ha⟩

lemma forall_mem_signed {P : Issue → Prop}
    (hP : ∀ i signature, P i → P { i with signature := signature }) {issues}
    (h : ∀ i ∈ issues, P i) (idx : ℕ) (ok : Bool) : ∀ i ∈ signed issues idx ok, P i := by
  induction issues generalizing idx with
  | nil => simp [signed]
  | cons i issues ih =>
    have hh := h i mem_cons_self
    have ht : ∀ j ∈ issues, P j := fun j hj => h j (mem_cons_of_mem i hj)
    cases idx with
    | zero =>
      simp only [signed, modify_zero_cons, forall_mem_cons]
      exact ⟨hP i _ hh, ht⟩
    | succ idx =>
      simp only [signed, modify_succ_cons, forall_mem_cons]
      exact ⟨hh, ih ht idx⟩

lemma pairwise_signed {issues} (h : issues.Pairwise After) (idx : ℕ) (ok : Bool) :
    (signed issues idx ok).Pairwise After := by
  induction issues generalizing idx with
  | nil => simp [signed]
  | cons i issues ih =>
    obtain ⟨hh, ht⟩ := pairwise_cons.1 h
    cases idx with
    | zero => exact pairwise_cons.2 ⟨hh, ht⟩
    | succ idx =>
      exact pairwise_cons.2
        ⟨forall_mem_signed (P := After i) (fun _ _ hj => hj) hh idx ok, ih ht idx⟩

lemma inv_signed (hinv : Inv s) (idx : ℕ) (ok : Bool) (errors : List String) :
    Inv { s with issues := signed s.issues idx ok, errors := errors } where
  nonneg := hinv.nonneg
  recorded := forall_mem_signed (fun _ _ hi => hi) hinv.recorded idx ok
  inOrder := pairwise_signed hinv.inOrder idx ok
  holder := by
    intro h hmu
    obtain ⟨hlt, ha⟩ := hinv.holder h hmu
    refine ⟨hlt, ?_⟩
    rcases h with ⟨shieldId, issuedAt, _ | ⟨row, readAt⟩ | ⟨payload, readAt⟩⟩
    · trivial
    · exact forall_mem_signed (fun _ _ hi => hi) ha idx ok
    · exact ⟨ha.1, forall_mem_signed (fun _ _ hi => hi) ha.2 idx ok⟩

lemma inv_step {s' a} (hinv : Inv s) (hs : step s a = some s') : Inv s' := by
  obtain ⟨m, hm, rfl⟩ := Option.map_eq_some_iff.1 hs
  cases a with
  | commit db =>
    cases hm
    exact hinv.onward hinv.holder
  | lock sid now =>
    simp only [act] at hm
    split at hm <;> cases hm
    exact hinv.hold (lastMs_lt_pickIssuedAt now s.lastMs) trivial
  | loadShield fault =>
    simp only [act] at hm
    split at hm
    · next sid issuedAt hmu =>
      split at hm
      · cases hm
        exact hinv.release
      · cases hm
        exact hinv.hold (hinv.holder _ hmu).1 fun i hi => (hinv.recorded i hi).2
    · cases hm
  | queryConnectors fault =>
    simp only [act] at hm
    split at hm
    · next sid issuedAt row readAt hmu =>
      obtain ⟨hlt, hr⟩ := hinv.holder _ hmu
      split at hm
      · cases hm
        exact hinv.release
      · next pl hp =>
        cases hm
        have hpos : 0 < issuedAt := hinv.nonneg.trans_lt hlt
        exact hinv.hold hlt ⟨queryConnectors_issuedAt hpos hp, hr⟩
    · cases hm
  | finish =>
    simp only [act] at hm
    split at hm <;> cases hm
    next hmu =>
      -- The list that the call in the mutex issues is after every other.
      obtain ⟨hlt, ht, hr⟩ := hinv.holder _ hmu
      simp only at hlt ht
      have hn := hinv.nonneg
      refine ⟨by simp only; omega, ?_, ?_, by simp⟩
      · intro i hi
        rcases mem_cons.1 hi with rfl | hi
        · exact ⟨ht.le, Nat.lt_succ_self _⟩
        · obtain ⟨hle, hc⟩ := hinv.recorded i hi
          exact ⟨by simp only; omega, Nat.lt_succ_of_lt hc⟩
      · refine pairwise_cons.2 ⟨fun i hi => ⟨?_, hr i hi⟩, hinv.inOrder⟩
        obtain ⟨hle, -⟩ := hinv.recorded i hi
        simp only
        omega
  | sign idx fault =>
    simp only [act] at hm
    split at hm <;> cases hm
    have hsg := inv_signed hinv idx fault.isNone s.errors
    exact hsg.onward hsg.holder

/-- **Every run**: of any two lists, signed or not, each is apart from the other. -/
lemma pairwise_apart {acts} (h : exec step (start db) acts = some s) :
    (issued s).Pairwise Apart := by
  have hi : Inv s := exec_inv (fun _ _ _ => inv_step) (inv_start db) h
  exact (hi.inOrder.sublist filter_sublist).imp apart_of_after

end Zecurity.PeerListIssuer
