import Mathlib.Data.List.Count
import Zecurity.Runs
import Zecurity.Users

/-!
The live role of a caller and its cache (`controller/internal/rbac/checker.go`), over every
interleaving of lookups, committed changes and invalidations.

A lookup probes the cache and notes how often its key and its workspace have been invalidated. Then
it reads the row, with no lock held, and stores what it has read only if neither count has moved.
Keys are canonical identifiers.
-/

namespace Zecurity.RoleCache

open AList FiniteMap List Option Runs Users

abbrev Time := ℤ

abbrev CallId := ℕ

/-- `CanonicalID`: the canonical text of an identifier, if it is one (`uuid.Parse`, `String`). -/
class Identifiers where
  canonicalID : String → Option String

open Identifiers (canonicalID)

variable {c' : CallId} {now : Time} {users : UserTable}

section Checker

variable [Identifiers]

/-! ### The checker -/

structure Key where
  tenant : WorkspaceId
  user : UserId
  deriving DecidableEq

def roleKey (tenantId userId : String) : Option Key :=
  (canonicalID tenantId).bind fun tenant => (canonicalID userId).map fun user => ⟨tenant, user⟩

/-- The key of an invalidation, which takes what is no identifier as it is. -/
def canonicalKey (tenantId userId : String) : Key :=
  ⟨(canonicalID tenantId).getD tenantId, (canonicalID userId).getD userId⟩

def roles : List Role := [.admin, .viewer, .devops, .security, .helpdesk, .member]

def validRole (role : Role) : Bool := decide (role ∈ roles)

structure Entry where
  role : Role
  expires : Time

inductive Phase
  | probed
  | denied
  | found (role : Role)
  deriving DecidableEq

/-- A `Role` call under way, with the counts that it has noted. -/
structure Call where
  key : Key
  gen : UInt64
  tenantGen : UInt64
  phase : Phase

structure State where
  users : UserTable
  now : Time
  cache : Map Key Entry
  gen : Map Key UInt64
  tenantGen : Map WorkspaceId UInt64
  calls : Map CallId Call
  outcomes : Map CallId (Except String Role)

inductive Action
  | role (c : CallId) (tenantId userId : String)
  | read (c : CallId)
  | readFails (c : CallId) (err : String)
  | finish (c : CallId)
  | commit (users : UserTable)
  | invalidate (tenantId userId : String)
  | invalidateTenant (tenantId : String)
  | advance (d : ℕ)

def defaultTTL : ℤ := 30000000000

def errNoAccess : String := "rbac: no active user in workspace"

namespace State

variable (s : State)

def genOf (k : Key) : UInt64 := (s.gen.lookup k).getD 0

def tenantGenOf (tenant : WorkspaceId) : UInt64 := (s.tenantGen.lookup tenant).getD 0

def live (k : Key) : Option Entry := (s.cache.lookup k).filter fun e => s.now < e.expires

def return_ (c : CallId) (outcome : Except String Role) : State :=
  { s with calls := s.calls.erase c, outcomes := s.outcomes.insert c outcome }

def probe (c : CallId) (tenantId userId : String) : State :=
  match roleKey tenantId userId with
  | none => s.return_ c (.error errNoAccess)
  | some k =>
    match s.live k with
    | some e => s.return_ c (.ok e.role)
    | none =>
      { s with calls := s.calls.insert c ⟨k, s.genOf k, s.tenantGenOf k.tenant, .probed⟩ }

/-- `SELECT role, status FROM users WHERE id = $1 AND tenant_id = $2` -/
def readRow (k : Key) : Phase :=
  match (s.users.lookup k.user).filter fun row => row.tenantId = k.tenant with
  | none => .denied
  | some row =>
    if row.status ≠ .active ∨ validRole row.role = false then .denied else .found row.role

def store (call : Call) (role : Role) : State :=
  if s.genOf call.key = call.gen ∧ s.tenantGenOf call.key.tenant = call.tenantGen then
    { s with cache := s.cache.insert call.key ⟨role, s.now + defaultTTL⟩ }
  else s

def drop (k : Key) : State := { s with cache := s.cache.erase k }

def finish (c : CallId) (call : Call) : Option State :=
  match call.phase with
  | .probed => none
  | .denied => some ((s.drop call.key).return_ c (.error errNoAccess))
  | .found role => some ((s.store call role).return_ c (.ok role))

def invalidate (k : Key) : State :=
  { s with cache := s.cache.erase k, gen := s.gen.insert k (s.genOf k + 1) }

def invalidateTenant (tenant : WorkspaceId) : State :=
  { s with
    cache := retain s.cache fun k _ => !decide (k.tenant = tenant)
    tenantGen := s.tenantGen.insert tenant (s.tenantGenOf tenant + 1) }

end State

def step (s : State) : Action → Option State
  | .role c tenantId userId =>
    if (s.calls.lookup c).isSome ∨ (s.outcomes.lookup c).isSome then none
    else some (s.probe c tenantId userId)
  | .read c =>
    (s.calls.lookup c).bind fun call =>
      if call.phase = .probed then
        some { s with calls := s.calls.insert c { call with phase := s.readRow call.key } }
      else none
  | .readFails c err =>
    (s.calls.lookup c).bind fun call =>
      if call.phase = .probed then some (s.return_ c (.error ("rbac: role lookup: " ++ err)))
      else none
  | .finish c => (s.calls.lookup c).bind fun call => s.finish c call
  | .commit users => some { s with users := users }
  | .invalidate tenantId userId => some (s.invalidate (canonicalKey tenantId userId))
  | .invalidateTenant tenantId =>
    some (s.invalidateTenant ((canonicalID tenantId).getD tenantId))
  | .advance d => some { s with now := s.now + d }

/-- `NewChecker` -/
def start (users : UserTable) (now : Time) : State where
  users := users
  now := now
  cache := ∅
  gen := ∅
  tenantGen := ∅
  calls := ∅
  outcomes := ∅

/-! ### Reads and invalidations in a schedule -/

def Action.ofKey (k : Key) : Action → Bool
  | .invalidate tenantId userId => decide (canonicalKey tenantId userId = k)
  | _ => false

def Action.ofTenant (tenant : WorkspaceId) : Action → Bool
  | .invalidateTenant tenantId => decide ((canonicalID tenantId).getD tenantId = tenant)
  | _ => false

/-- The action invalidates the key, by whatever spelling. -/
def Action.invalidates (k : Key) (a : Action) : Bool := a.ofKey k || a.ofTenant k.tenant

def HasRole (users : UserTable) (k : Key) (role : Role) : Prop :=
  ∃ row, users.lookup k.user = some row ∧ row.tenantId = k.tenant ∧ row.role = role ∧
    row.status = .active

/-- The call is about to read the row, and will find an active user of this role. -/
def State.ReadsRole (s : State) (c : CallId) (k : Key) (role : Role) : Prop :=
  (∃ call, s.calls.lookup c = some call ∧ call.key = k ∧ call.phase = .probed) ∧
    HasRole s.users k role

/-- Somewhere in the schedule after `pre`, a call reads the role from the row. If the call `c` reads
the row at all, it is that call. -/
def ReadSince (s₀ : State) (pre acts : List Action) (c : CallId) (k : Key) (role : Role) : Prop :=
  ∃ before c' post m, pre <+: before ∧ acts = before ++ Action.read c' :: post ∧
    exec step s₀ before = some m ∧ m.ReadsRole c' k role ∧ (Action.read c ∈ acts → c' = c)

variable {pre mid : List Action}

lemma prefix_of_quiet {k : Key} {before rest p q : List Action} {a : Action}
    (h : before ++ rest = p ++ a :: q) (hqt : ∀ b ∈ rest, b.invalidates k = false)
    (ha : a.invalidates k = true) : p ++ [a] <+: before := by
  have hn : a ∉ rest := by
    intro hm
    rw [hqt a hm] at ha
    cases ha
  rcases append_eq_append_iff.1 h with ⟨between, -, hr⟩ | ⟨between, hb, hq⟩
  · exact absurd (by rw [hr]; simp) hn
  · cases between with
    | nil => exact absurd (by rw [show rest = a :: q from hq.symm]; simp) hn
    | cons b between =>
      obtain ⟨rfl, -⟩ : a = b ∧ q = between ++ rest := by simpa using hq
      exact ⟨between, by rw [hb, append_assoc, singleton_append]⟩

/-! ### What a step does -/

/-- The steps, one constructor for each way that an action can end. -/
inductive Steps (s : State) : Action → State → Prop
  | invalid {c : CallId} {tenantId userId} (hnew : s.calls.lookup c = none)
    (hout : s.outcomes.lookup c = none) (hkey : roleKey tenantId userId = none) :
      Steps s (.role c tenantId userId) (s.return_ c (.error errNoAccess))
  | hit {c : CallId} {tenantId userId} {k : Key} {e} (hnew : s.calls.lookup c = none)
    (hout : s.outcomes.lookup c = none) (hkey : roleKey tenantId userId = some k)
    (he : s.cache.lookup k = some e) : Steps s (.role c tenantId userId) (s.return_ c (.ok e.role))
  | miss {c : CallId} {tenantId userId} {k : Key} (hnew : s.calls.lookup c = none)
    (hout : s.outcomes.lookup c = none) (hkey : roleKey tenantId userId = some k) :
      Steps s (.role c tenantId userId) { s with
        calls := s.calls.insert c ⟨k, s.genOf k, s.tenantGenOf k.tenant, .probed⟩ }
  | read {c : CallId} {call : Call} (hcall : s.calls.lookup c = some call)
      (hphase : call.phase = .probed) :
      Steps s (.read c)
        { s with calls := s.calls.insert c { call with phase := s.readRow call.key } }
  | readFails {c : CallId} {call : Call} {err} (hcall : s.calls.lookup c = some call) :
      Steps s (.readFails c err) (s.return_ c (.error ("rbac: role lookup: " ++ err)))
  | denied {c : CallId} {call : Call} (hcall : s.calls.lookup c = some call) :
      Steps s (.finish c) ((s.drop call.key).return_ c (.error errNoAccess))
  | stored {c : CallId} {call : Call} {role : Role} (hcall : s.calls.lookup c = some call)
      (hphase : call.phase = .found role) (hgen : s.genOf call.key = call.gen)
      (htenantGen : s.tenantGenOf call.key.tenant = call.tenantGen) :
      Steps s (.finish c)
        { s.return_ c (.ok role) with
          cache := s.cache.insert call.key ⟨role, s.now + defaultTTL⟩ }
  | outdated {c : CallId} {call : Call} {role : Role} (hcall : s.calls.lookup c = some call)
      (hphase : call.phase = .found role) : Steps s (.finish c) (s.return_ c (.ok role))
  | commit {users : UserTable} : Steps s (.commit users) { s with users := users }
  | invalidate {tenantId userId} :
      Steps s (.invalidate tenantId userId) (s.invalidate (canonicalKey tenantId userId))
  | invalidateTenant {tenantId} :
      Steps s (.invalidateTenant tenantId)
        (s.invalidateTenant ((canonicalID tenantId).getD tenantId))
  | advance {d} : Steps s (.advance d) { s with now := s.now + d }

section Steps

variable {s s' : State} {a : Action}

lemma steps_of_step (hs : step s a = some s') : Steps s a s' := by
  cases a with
  | role c tid uid =>
    obtain ⟨hn, hs⟩ := ite_none_left_eq_some.1 hs
    cases hs
    rw [not_or, not_isSome_iff_eq_none, not_isSome_iff_eq_none] at hn
    unfold State.probe
    split
    · next hk => exact .invalid hn.1 hn.2 hk
    · next k hk =>
      split
      · next e he => exact .hit hn.1 hn.2 hk (filter_eq_some_iff.1 he).1
      · exact .miss hn.1 hn.2 hk
  | read c =>
    obtain ⟨call, hc, hp, ⟨⟩⟩ := bind_ite_eq_some.1 hs
    exact .read hc hp
  | readFails c err =>
    obtain ⟨call, hc, -, ⟨⟩⟩ := bind_ite_eq_some.1 hs
    exact .readFails hc
  | finish c =>
    obtain ⟨call, hc, hs⟩ := bind_eq_some_iff.1 hs
    unfold State.finish at hs
    split at hs
    · cases hs
    · cases hs
      exact .denied hc
    · next hp =>
      cases hs
      unfold State.store
      split
      · next hg => exact .stored hc hp hg.1 hg.2
      · exact .outdated hc hp
  | commit users =>
    cases hs
    exact .commit
  | invalidate tid uid =>
    cases hs
    exact .invalidate
  | invalidateTenant tid =>
    cases hs
    exact .invalidateTenant
  | advance d =>
    cases hs
    exact .advance

omit [Identifiers] in
lemma getD_lookup_insert {K : Type} [DecidableEq K] (m : Map K UInt64) (k j : K) (n : UInt64) :
    ((m.insert k n).lookup j).getD 0 = if k = j then n else (m.lookup j).getD 0 := by
  by_cases hkj : k = j
  · rw [hkj, lookup_insert, if_pos rfl]
    rfl
  · rw [lookup_insert_ne (Ne.symm hkj), if_neg hkj]

section

variable (hs : Steps s a s')
include hs

lemma genOf_step (k : Key) : s'.genOf k = s.genOf k + if a.ofKey k then 1 else 0 := by
  cases hs with
  | @invalidate tid uid =>
    refine (getD_lookup_insert s.gen (canonicalKey tid uid) k _).trans ?_
    simp only [Action.ofKey, decide_eq_true_eq]
    split
    · next heq => rw [heq]
    · exact (UInt64.add_zero _).symm
  | _ => exact (UInt64.add_zero _).symm

lemma tenantGenOf_step (tenant : WorkspaceId) :
    s'.tenantGenOf tenant = s.tenantGenOf tenant + if a.ofTenant tenant then 1 else 0 := by
  cases hs with
  | @invalidateTenant tid =>
    refine (getD_lookup_insert s.tenantGen ((canonicalID tid).getD tid) tenant _).trans ?_
    simp only [Action.ofTenant, decide_eq_true_eq]
    split
    · next heq => rw [heq]
    · exact (UInt64.add_zero _).symm
  | _ => exact (UInt64.add_zero _).symm

lemma cache_step {k e} (he : s'.cache.lookup k = some e) :
    s.cache.lookup k = some e ∧ a.invalidates k = false ∨
      ∃ c call, a = .finish c ∧ s.calls.lookup c = some call ∧ call.key = k ∧
        call.phase = .found e.role ∧ s.genOf k = call.gen ∧
        s.tenantGenOf k.tenant = call.tenantGen := by
  cases hs with
  | denied hc => exact .inl ⟨(lookup_erase_eq_some.1 he).1, rfl⟩
  | @stored c call role hc hp hg htg =>
    rcases lookup_insert_eq_some.1 he with ⟨rfl, rfl⟩ | ⟨-, he⟩
    · exact .inr ⟨c, call, rfl, hc, rfl, hp, hg, htg⟩
    · exact .inl ⟨he, rfl⟩
  | invalidate =>
    obtain ⟨he, hne⟩ := lookup_erase_eq_some.1 he
    exact .inl ⟨he, by simpa [Action.invalidates, Action.ofKey, Action.ofTenant] using Ne.symm hne⟩
  | @invalidateTenant tenantId =>
    obtain ⟨he, hne⟩ := lookup_retain_eq_some.1 he
    have ho : k.tenant ≠ (canonicalID tenantId).getD tenantId := by simpa using hne
    exact .inl ⟨he, by simpa [Action.invalidates, Action.ofKey, Action.ofTenant] using ho.symm⟩
  | _ => exact .inl ⟨he, rfl⟩

lemma calls_step {c call} (hc : s'.calls.lookup c = some call) :
    s.calls.lookup c = some call ∨
      (∃ tid uid, a = .role c tid uid ∧ roleKey tid uid = some call.key ∧
        call.gen = s.genOf call.key ∧ call.tenantGen = s.tenantGenOf call.key.tenant ∧
        call.phase = .probed) ∨
      ∃ old, a = .read c ∧ s.calls.lookup c = some old ∧ old.phase = .probed ∧
        call = { old with phase := s.readRow old.key } := by
  cases hs with
  | miss hn ho hk =>
    rcases lookup_insert_eq_some.1 hc with ⟨rfl, rfl⟩ | ⟨-, hc⟩
    · exact .inr (.inl ⟨_, _, rfl, hk, rfl, rfl, rfl⟩)
    · exact .inl hc
  | read hold hp =>
    rcases lookup_insert_eq_some.1 hc with ⟨rfl, rfl⟩ | ⟨-, hc⟩
    · exact .inr (.inr ⟨_, rfl, hold, hp, rfl⟩)
    · exact .inl hc
  | invalid | hit | readFails | denied | stored | outdated =>
    exact .inl (lookup_erase_eq_some.1 hc).1
  | commit | invalidate | invalidateTenant | advance => exact .inl hc

lemma outcomes_step {c role} (hr : s'.outcomes.lookup c = some (.ok role)) :
    s.outcomes.lookup c = some (.ok role) ∨
      (∃ tid uid k e, a = .role c tid uid ∧ s.calls.lookup c = none ∧
        s.outcomes.lookup c = none ∧ roleKey tid uid = some k ∧
        s.cache.lookup k = some e ∧ e.role = role) ∨
      ∃ call, a = .finish c ∧ s.calls.lookup c = some call ∧ call.phase = .found role := by
  cases hs with
  | hit hn ho hk he =>
    rcases lookup_insert_eq_some.1 hr with ⟨rfl, heq⟩ | ⟨-, hr⟩
    · cases heq
      exact .inr (.inl ⟨_, _, _, _, rfl, hn, ho, hk, he, rfl⟩)
    · exact .inl hr
  | stored hc hp | outdated hc hp =>
    rcases lookup_insert_eq_some.1 hr with ⟨rfl, heq⟩ | ⟨-, hr⟩
    · cases heq
      exact .inr (.inr ⟨_, rfl, hc, hp⟩)
    · exact .inl hr
  | invalid | readFails | denied =>
    rcases lookup_insert_eq_some.1 hr with ⟨rfl, heq⟩ | ⟨-, hr⟩
    · cases heq
    · exact .inl hr
  | miss | read | commit | invalidate | invalidateTenant | advance => exact .inl hr

end

/-- The call is not one that has begun. -/
def State.Unused (s : State) (c : CallId) : Prop :=
  s.calls.lookup c = none ∧ s.outcomes.lookup c = none

omit [Identifiers] in
lemma unused_return {c out} (h : (s.return_ c' out).Unused c) : s.Unused c ∧ c' ≠ c := by
  obtain ⟨hc, ho⟩ := h
  have hne : c' ≠ c := by
    rintro rfl
    rw [State.return_, lookup_insert] at ho
    cases ho
  rw [State.return_, lookup_erase_ne hne.symm] at hc
  rw [State.return_, lookup_insert_ne hne.symm] at ho
  exact ⟨⟨hc, ho⟩, hne⟩

omit [Identifiers] in
lemma ne_of_lookup_insert_eq_none {c call} (h : (s.calls.insert c' call).lookup c = none) :
    c' ≠ c ∧ s.calls.lookup c = none := by
  have hne : c' ≠ c := by
    rintro rfl
    rw [lookup_insert] at h
    cases h
  exact ⟨hne, by rwa [lookup_insert_ne hne.symm] at h⟩

lemma unused_step (hs : Steps s a s') {c} (h : s'.Unused c) :
    s.Unused c ∧ a ≠ .read c ∧ ∀ tid userId, a ≠ .role c tid userId := by
  cases hs with
  | invalid | hit =>
    obtain ⟨hu, hne⟩ := unused_return h
    exact ⟨hu, by simp, by simp [hne]⟩
  | miss =>
    obtain ⟨hne, hc⟩ := ne_of_lookup_insert_eq_none h.1
    exact ⟨⟨hc, h.2⟩, by simp, by simp [hne]⟩
  | read =>
    obtain ⟨hne, hc⟩ := ne_of_lookup_insert_eq_none h.1
    exact ⟨⟨hc, h.2⟩, by simp [hne], by simp⟩
  | readFails | denied | stored | outdated => exact ⟨(unused_return h).1, by simp, by simp⟩
  | commit | invalidate | invalidateTenant | advance => exact ⟨h, by simp, by simp⟩

/-- A call that has returned is no longer under way. -/
def State.Ended (s : State) : Prop := ∀ c, (s.outcomes.lookup c).isSome → s.calls.lookup c = none

omit [Identifiers] in
lemma ended_return (h : s.Ended) (c : CallId) (out : Except String Role) :
    (s.return_ c out).Ended := by
  intro c' ho
  by_cases hne : c' = c
  · rw [hne]
    exact lookup_erase c s.calls
  · rw [State.return_, lookup_insert_ne hne] at ho
    rw [State.return_, lookup_erase_ne hne]
    exact h c' ho

omit [Identifiers] in
lemma ended_insert (h : s.Ended) {c} (ho : s.outcomes.lookup c = none) (call : Call) :
    State.Ended { s with calls := s.calls.insert c call } := by
  intro c' hsm
  have hne : c' ≠ c := by
    rintro rfl
    simp [ho] at hsm
  exact (lookup_insert_ne hne).trans (h c' hsm)

lemma ended_step (hs : Steps s a s') (h : s.Ended) : s'.Ended := by
  cases hs with
  | invalid | hit | readFails | outdated | stored => exact ended_return h _ _
  | denied => exact ended_return (s := s.drop _) h _ _
  | miss hn ho => exact ended_insert h ho _
  | @read c call hc hp =>
    refine ended_insert h (not_isSome_iff_eq_none.1 fun hsm => ?_) _
    rw [h c hsm] at hc
    cases hc
  | commit | invalidate | invalidateTenant | advance => exact h

omit [Identifiers] in
lemma hasRole_of_readRow {k role} (h : s.readRow k = .found role) : HasRole s.users k role := by
  unfold State.readRow at h
  split at h
  · cases h
  · next row hr =>
    obtain ⟨hr, ht⟩ := filter_eq_some_iff.1 hr
    split at h <;> cases h
    next hg =>
      rw [not_or, not_not] at hg
      exact ⟨row, hr, of_decide_eq_true ht, rfl, hg.1⟩

end Steps

/-! ### The invariant -/

/-- The role was read after the last invalidation of the key. -/
def Current (s₀ : State) (acts : List Action) (k : Key) (role : Role) : Prop :=
  ∃ before c post m, acts = before ++ Action.read c :: post ∧ exec step s₀ before = some m ∧
    m.ReadsRole c k role ∧ ∀ a ∈ post, a.invalidates k = false

/-- A call that has begun after `pre`, and has read the row if it has found a role. -/
structure Began (s₀ : State) (acts : List Action) (c : CallId) (call : Call)
    (pre mid : List Action) : Prop where
  gen : call.gen = .ofNat (pre.countP (Action.ofKey call.key))
  tenantGen : call.tenantGen = .ofNat (pre.countP (Action.ofTenant call.key.tenant))
  acts_eq : ∃ tenantId userId, roleKey tenantId userId = some call.key ∧
    acts = pre ++ .role c tenantId userId :: mid
  found : ∀ role, call.phase = .found role → ∃ before post m, acts = before ++ .read c :: post ∧
    pre <+: before ∧ exec step s₀ before = some m ∧ m.ReadsRole c call.key role

/-- A role that was returned was read by a call after every invalidation before the call began. -/
def Returned (s₀ : State) (acts : List Action) (c : CallId) (role : Role) : Prop :=
  ∃ pre tenantId userId mid k before c' post m,
    acts = pre ++ .role c tenantId userId :: mid ∧ roleKey tenantId userId = some k ∧
    acts = before ++ .read c' :: post ∧ exec step s₀ before = some m ∧ m.ReadsRole c' k role ∧
    (Action.read c ∈ acts → c' = c) ∧
    ∀ p a q, pre = p ++ a :: q → a.invalidates k = true → p ++ [a] <+: before

structure Inv (s₀ : State) (acts : List Action) (s : State) : Prop where
  gen : ∀ k, s.genOf k = .ofNat (acts.countP (Action.ofKey k))
  tenantGen : ∀ tenant, s.tenantGenOf tenant = .ofNat (acts.countP (Action.ofTenant tenant))
  cache : ∀ k e, s.cache.lookup k = some e → Current s₀ acts k e.role
  calls : ∀ c call, s.calls.lookup c = some call → ∃ pre mid, Began s₀ acts c call pre mid
  returned : ∀ c role, s.outcomes.lookup c = some (.ok role) → Returned s₀ acts c role
  ended : s.Ended
  unused : ∀ c, s.Unused c → .read c ∉ acts ∧ ∀ tenantId userId, .role c tenantId userId ∉ acts

section Invariant

variable {s₀ s s' : State} {acts : List Action} {a : Action} {c : CallId} {call : Call} {k : Key}
  {role : Role}

lemma Current.concat (h : Current s₀ acts k role) (ha : a.invalidates k = false) :
    Current s₀ (acts ++ [a]) k role := by
  obtain ⟨before, c, post, m, rfl, hm, hr, hq⟩ := h
  refine ⟨before, c, post ++ [a], m, by simp, hm, hr, fun b hb => ?_⟩
  rcases mem_append.1 hb with hb | hb
  · exact hq b hb
  · rw [mem_singleton.1 hb]
    exact ha

lemma Began.concat (h : Began s₀ acts c call pre mid) (a : Action) :
    Began s₀ (acts ++ [a]) c call pre (mid ++ [a]) where
  gen := h.gen
  tenantGen := h.tenantGen
  acts_eq := by
    obtain ⟨tid, uid, hk, rfl⟩ := h.acts_eq
    exact ⟨tid, uid, hk, by simp⟩
  found := by
    intro role hp
    obtain ⟨before, post, m, ha, hpre, hm, hr⟩ := h.found role hp
    exact ⟨before, post ++ [a], m, by rw [ha]; simp, hpre, hm, hr⟩

lemma Returned.concat (h : Returned s₀ acts c role) (ha : a ≠ .read c) :
    Returned s₀ (acts ++ [a]) c role := by
  obtain ⟨pre, tid, uid, mid, k, before, c', post, m, hac, hk, hrd, hm, hr, ho, hsn⟩ := h
  refine ⟨pre, tid, uid, mid ++ [a], k, before, c', post ++ [a], m, by rw [hac]; simp,
    hk, by rw [hrd]; simp, hm, hr, fun hmem => ?_, hsn⟩
  rcases mem_append.1 hmem with hmem | hmem
  · exact ho hmem
  · exact absurd (mem_singleton.1 hmem).symm ha

lemma Began.current (h : Began s₀ acts c call pre mid) (hlen : acts.length < UInt64.size)
    (hg : UInt64.ofNat (acts.countP (Action.ofKey call.key)) = call.gen)
    (htg : UInt64.ofNat (acts.countP (Action.ofTenant call.key.tenant)) = call.tenantGen)
    (hp : call.phase = .found role) : Current s₀ acts call.key role := by
  obtain ⟨before, post, m, ha, ⟨between, hbf⟩, hm, hr⟩ := h.found role hp
  refine ⟨before, c, post, m, ha, hm, hr, fun b hb => ?_⟩
  have hsp : acts = pre ++ (between ++ .read c :: post) := by rw [ha, ← hbf, append_assoc]
  have hmem : b ∈ between ++ .read c :: post := by simp [hb]
  rw [hsp] at hlen
  rw [hsp, h.gen] at hg
  rw [hsp, h.tenantGen] at htg
  rw [Action.invalidates, quiet_of_ofNat_countP_eq hlen hg b hmem,
    quiet_of_ofNat_countP_eq hlen htg b hmem]
  rfl

lemma Current.returned {tid uid : String} (h : Current s₀ acts k role)
    (hk : roleKey tid uid = some k) (hu : .read c ∉ acts) :
    Returned s₀ (acts ++ [.role c tid uid]) c role := by
  obtain ⟨before, c', post, m, hac, hm, hr, hq⟩ := h
  refine ⟨acts, tid, uid, [], k, before, c', post ++ [.role c tid uid], m, rfl,
    hk, by rw [hac]; simp, hm, hr, fun hmem => ?_, fun p a q hsp ha => ?_⟩
  · rcases mem_append.1 hmem with hmem | hmem
    · exact absurd hmem hu
    · cases mem_singleton.1 hmem
  · have hrs : ∀ b ∈ Action.read c' :: post, b.invalidates k = false := by
      intro b hb
      rcases mem_cons.1 hb with rfl | hb
      · rfl
      · exact hq b hb
    exact prefix_of_quiet (hac.symm.trans hsp) hrs ha

lemma Began.returned (h : Began s₀ acts c call pre mid) (hp : call.phase = .found role) :
    Returned s₀ acts c role := by
  obtain ⟨tid, uid, hk, ha⟩ := h.acts_eq
  obtain ⟨before, post, m, hrd, hpre, hm, hr⟩ := h.found role hp
  refine ⟨pre, tid, uid, mid, call.key, before, c, post, m, ha, hk, hrd, hm, hr,
    fun _ => rfl, fun p a q hsp _ => List.IsPrefix.trans ?_ hpre⟩
  exact ⟨q, by rw [hsp]; simp⟩

lemma Inv.calls_next (h : Inv s₀ acts s) (he : exec step s₀ acts = some s) (hs : Steps s a s')
    (hc : s'.calls.lookup c = some call) : ∃ pre mid, Began s₀ (acts ++ [a]) c call pre mid := by
  rcases calls_step hs hc with hold | ⟨tid, uid, rfl, hk, hg, htg, hph⟩ |
    ⟨old, rfl, hold, hp, rfl⟩
  · obtain ⟨pre, mid, hb⟩ := h.calls c call hold
    exact ⟨pre, mid ++ [a], hb.concat a⟩
  · refine ⟨acts, [], hg.trans (h.gen _), htg.trans (h.tenantGen _),
      ⟨tid, uid, hk, rfl⟩, fun role hf => ?_⟩
    rw [hph] at hf
    cases hf
  · obtain ⟨pre, mid, hb⟩ := h.calls c old hold
    obtain ⟨tid, uid, hk, ha⟩ := hb.acts_eq
    refine ⟨pre, mid ++ [.read c], hb.gen, hb.tenantGen,
      ⟨tid, uid, hk, by rw [ha]; simp⟩, fun role hf => ?_⟩
    refine ⟨acts, [], s, rfl, ⟨_, ha.symm⟩, he, ⟨old, hold, rfl, hp⟩, ?_⟩
    exact hasRole_of_readRow hf

lemma Inv.next (h : Inv s₀ acts s) (hlen : acts.length < UInt64.size)
    (hex : exec step s₀ acts = some s) (hs : Steps s a s') : Inv s₀ (acts ++ [a]) s' where
  gen := by
    intro k
    rw [genOf_step hs, h.gen, ofNat_countP_concat]
  tenantGen := by
    intro tenant
    rw [tenantGenOf_step hs, h.tenantGen, ofNat_countP_concat]
  cache := by
    intro k e he
    rcases cache_step hs he with ⟨hold, hq⟩ |
      ⟨c, call, rfl, hc, rfl, hp, hg, htg⟩
    · exact (h.cache k e hold).concat hq
    · obtain ⟨pre, mid, hb⟩ := h.calls c call hc
      rw [h.gen] at hg
      rw [h.tenantGen] at htg
      exact (hb.current hlen hg htg hp).concat rfl
  calls := fun c call hc => h.calls_next hex hs hc
  returned := by
    intro c role hret
    rcases outcomes_step hs hret with hold |
      ⟨tid, uid, k, e, rfl, hn, ho, hk, he, rfl⟩ | ⟨call, rfl, hc, hp⟩
    · refine (h.returned c role hold).concat ?_
      -- a call that has returned reads no more
      rintro rfl
      cases hs with
      | read hc _ =>
        rw [h.ended c (by rw [hold]; rfl)] at hc
        cases hc
    · exact (h.cache k e he).returned hk (h.unused c ⟨hn, ho⟩).1
    · obtain ⟨pre, mid, hb⟩ := h.calls c call hc
      exact (hb.returned hp).concat (by simp)
  ended := ended_step hs h.ended
  unused := by
    intro c hu
    obtain ⟨hbf, hr, hrl⟩ := unused_step hs hu
    obtain ⟨hr', hrl'⟩ := h.unused c hbf
    refine ⟨by simp [hr', Ne.symm hr], fun tid uid => ?_⟩
    simp [hrl' tid uid, Ne.symm (hrl tid uid)]

lemma inv_start (users : UserTable) (now : Time) : Inv (start users now) [] (start users now) where
  gen := fun _ => rfl
  tenantGen := fun _ => rfl
  cache := nofun
  calls := nofun
  returned := nofun
  ended := nofun
  unused := fun _ _ => by simp

lemma inv_of_exec (hlen : acts.length < UInt64.size)
    (h : exec step (start users now) acts = some s) : Inv (start users now) acts s := by
  refine exec_inv_trace
    (I := fun acts s => acts.length < UInt64.size → Inv (start users now) acts s)
    (fun _ => inv_start users now) (fun as _ a _ he hi hs hlen => ?_) h hlen
  rw [length_append, length_singleton] at hlen
  exact (hi (by omega)).next (by omega) he (steps_of_step hs)

lemma not_mem_of_exec {tid uid} (hlen : (pre ++ .role c tid uid :: mid).length < UInt64.size)
    (h : exec step (start users now) (pre ++ .role c tid uid :: mid) = some s)
    (tid' uid' : String) : .role c tid' uid' ∉ pre := by
  rw [length_append] at hlen
  rw [exec_append] at h
  obtain ⟨m, hm, h⟩ := bind_eq_some_iff.1 h
  obtain ⟨m', hm', -⟩ := exec_cons_some step h
  have hu : m.Unused c := by
    cases steps_of_step hm' with
    | invalid hn ho | hit hn ho | miss hn ho => exact ⟨hn, ho⟩
  exact ((inv_of_exec (by omega) hm).unused c hu).2 tid' uid'

end Invariant

/-- **Roles are never stale after an invalidation.** In every run, a role that a call returns was
read from the row of an active user, by the call itself if it has read the row, and after every
invalidation of the key that stands before the beginning of the call. The run has fewer than
`2 ^ 64` events, so that no count comes round. -/
theorem role_read_since_invalidation (users : UserTable) (now : Time) {pre post : List Action}
    {c : CallId} {tenantId userId : String} {k : Key} {role : Role} {s : State}
    (hlen : (pre ++ .role c tenantId userId :: post).length < UInt64.size)
    (hrun : exec step (start users now) (pre ++ .role c tenantId userId :: post) = some s)
    (hkey : roleKey tenantId userId = some k) (hret : s.outcomes.lookup c = some (.ok role)) :
    ReadSince (start users now) [] (pre ++ .role c tenantId userId :: post) c k role ∧
    ∀ before a between, pre = before ++ a :: between → a.invalidates k = true →
      ReadSince (start users now) (before ++ [a]) (pre ++ .role c tenantId userId :: post) c k
        role := by
  obtain ⟨pre', tenantId', userId', mid, k', before, c', post', m, hac, hk', hrd, hm, hr,
    ho, hsn⟩ := (inv_of_exec hlen hrun).returned c role hret
  obtain ⟨rfl, heq⟩ := split_unique hac
    (not_mem_of_exec (hac ▸ hlen) (by rw [← hac]; exact hrun) tenantId userId)
    (not_mem_of_exec hlen hrun tenantId' userId')
  cases heq
  obtain rfl : k' = k := some_inj.1 (hk'.symm.trans hkey)
  exact ⟨⟨before, c', post', m, nil_prefix, hrd, hm, hr, ho⟩, fun first a between hsp ha =>
      ⟨before, c', post', m, hsn first a between hsp ha, hrd, hm, hr, ho⟩⟩

end Checker

/-! ### A run -/

/-- Identifiers with or without braces, in any letter case. -/
local instance : Identifiers where
  canonicalID id := some (.ofList ((id.toList.filter (· ∉ ['\x7b', '\x7d'])).map Char.toLower))

def tenantA : WorkspaceId := "11111111-1111-1111-1111-111111111111"

def userA : UserId := "abababab-abab-abab-abab-abababababab"

def usersWith (role : Role) : UserTable :=
  AList.singleton userA ⟨tenantA, "a@x", role, .active, 1, .manual⟩

/-- A lookup has read the row; the user is demoted, and the key is invalidated by another spelling.
Then the lookup ends. -/
def demotedMeanwhile : List Action :=
  [Action.role 0 tenantA userA, .read 0, .commit (usersWith .viewer),
    .invalidate "{11111111-1111-1111-1111-111111111111}" "ABABABAB-ABAB-ABAB-ABAB-ABABABABABAB",
    .finish 0]

def nextLookup : List Action :=
  [Action.role 1 tenantA "abababab-abab-abab-abab-ABABABABABAB", .read 1, .finish 1]

theorem role_read_since_invalidation_demoted :
    ∃ s ∈ exec step (start (usersWith .admin) 0) (demotedMeanwhile ++ nextLookup),
      s.outcomes.lookup 0 = some (.ok .admin) ∧ s.outcomes.lookup 1 = some (.ok .viewer) ∧
      ReadSince (start (usersWith .admin) 0) (demotedMeanwhile.take 4)
        (demotedMeanwhile ++ nextLookup) 1 ⟨tenantA, userA⟩ .viewer := by
  obtain ⟨s, hs, hf, hsc⟩ :
      ∃ s ∈ exec step (start (usersWith .admin) 0) (demotedMeanwhile ++ nextLookup),
        s.outcomes.lookup 0 = some (.ok .admin) ∧ s.outcomes.lookup 1 = some (.ok .viewer) := by
    decide +kernel
  refine ⟨s, hs, hf, hsc, ?_⟩
  exact (role_read_since_invalidation (usersWith .admin) 0 (by decide) hs (by decide +kernel) hsc).2
    (demotedMeanwhile.take 3) _ [.finish 0] rfl (by decide +kernel)

end Zecurity.RoleCache
