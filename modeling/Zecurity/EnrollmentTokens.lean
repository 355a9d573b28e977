import Zecurity.Runs
import Zecurity.ShieldRows

/-!
Enrollment tokens: issues and enrollments for the rows of shields and of connectors, in any
interleaving (`controller/internal/shield/token.go`, `enrollment.go`;
`controller/internal/connector/token_handler.go`, `enrollment.go`).

An issue stores the token's entry in Valkey, makes the token current in the row and deletes its
predecessor's entry; an enrollment looks for the entry, claims the row under its lock, signs,
activates the row and deletes the entry. Every command to Valkey and every commit may fail, with
or without having been applied. The two kinds have their own claims, checks and columns: these are
a `Kind`. What an enrollment reads of other tables between its claim and its commit is any answer.
-/

namespace Zecurity.EnrollmentTokens

open AList FiniteMap List Option Runs

abbrev CallId := ℕ
abbrev Jti := String
abbrev RowId := String

/-- Rows that are enrolled by tokens. -/
structure Kind (Claims Row Req : Type) where
  jti : Claims → Jti
  rowId : Claims → RowId
  complete : Claims → Bool
  csrOk : Claims → Req → Bool
  pending : Row → Bool
  token : Row → Option Jti
  serial : Row → Option ℕ
  /-- the `WHERE` of the statement that makes a token current, but for the status -/
  swaps : Claims → Row → Bool
  withToken : Claims → Row → Row
  agrees : Claims → Row → Bool
  enrolled : Claims → Req → ℕ → ℤ → Row → Row
  pending_withToken : ∀ c row, pending (withToken c row) = pending row
  token_withToken : ∀ c row, token (withToken c row) = some (jti c)
  agrees_withToken : ∀ c row, swaps c row = true → agrees c (withToken c row) = true
  pending_enrolled : ∀ c q n now row, pending (enrolled c q n now row) = false
  serial_enrolled : ∀ c q n now row, serial (enrolled c q n now row) = some n

inductive Outcome
  | ok
  | failed (applied : Bool)
  deriving DecidableEq

def Outcome.applied : Outcome → Bool
  | .ok => true
  | .failed applied => applied

inductive IssuePhase
  | signed
  | stored
  | swapped (previous : Jti)
  | unused
  | done
  deriving DecidableEq

inductive EnrollPhase
  | verified
  | stored
  | claimed
  | loaded
  | committed (serial : ℕ)
  | consumed (serial : ℕ)
  deriving DecidableEq

variable {sn : ℕ} {now : ℤ}

section Model

variable {Claims Row Req : Type}

structure Enrollment (Claims Req : Type) where
  claims : Claims
  req : Req
  /-- a newer token of the row had been returned when the enrollment began -/
  outdated : Bool
  phase : EnrollPhase

inductive Call (Claims Req : Type)
  | issue (c : Claims) (phase : IssuePhase)
  | enroll (e : Enrollment Claims Req)

structure State (Claims Row Req : Type) where
  rows : Map RowId Row
  /-- Valkey -/
  entries : Map Jti RowId
  signed : List Claims
  history : List (RowId × Jti)
  returned : List Claims
  calls : Map CallId (Call Claims Req)
  commits : List (RowId × Jti)
  certificates : List (RowId × ℕ)

def start : State Claims Row Req where
  rows := ∅
  entries := ∅
  signed := []
  history := []
  returned := []
  calls := ∅
  commits := []
  certificates := []

inductive Action (Claims Row Req : Type)
  | create (k : RowId) (row : Row)
  | issue (id : CallId) (c : Claims)
  | store (id : CallId) (o : Outcome)
  | swap (id : CallId) (o : Outcome)
  | dropUnused (id : CallId) (o : Outcome)
  | dropPrevious (id : CallId) (o : Outcome)
  | returnToken (id : CallId)
  | enroll (id : CallId) (c : Claims) (req : Req)
  | peek (id : CallId) (o : Outcome)
  | claim (id : CallId)
  /-- the reads between the claim and the update: the workspace, a shield's connector, the CA -/
  | load (id : CallId) (ok : Bool)
  | commit (id : CallId) (serial : ℕ) (now : ℤ) (o : Outcome)
  | consume (id : CallId) (o : Outcome)
  | respond (id : CallId)
  | abandon (id : CallId)
  | expire (j : Jti)

/-- The tokens that have been current for a row, newest first. -/
def tokensOf (history : List (RowId × Jti)) (k : RowId) : List Jti :=
  (history.filter fun q => q.1 == k).map Prod.snd

variable (K : Kind Claims Row Req)

/-- The row that a call has locked. -/
def Call.holds : Call Claims Req → Option RowId
  | .enroll e =>
    if e.phase = .claimed ∨ e.phase = .loaded then some (K.rowId e.claims) else none
  | .issue _ _ => none

/-- No transaction holds the row. -/
def Free (calls : Map CallId (Call Claims Req)) (k : RowId) : Prop :=
  All calls fun c => c.holds K ≠ some k

instance (calls : Map CallId (Call Claims Req)) (k : RowId) : Decidable (Free K calls k) :=
  inferInstanceAs (Decidable (All _ _))

namespace State

variable (s : State Claims Row Req) (id : CallId)

def issueIn (p : IssuePhase) : Option Claims :=
  (s.calls.lookup id).bind fun
    | .issue c p' => if p' = p then some c else none
    | .enroll _ => none

def enrollmentIn (p : EnrollPhase) : Option (Enrollment Claims Req) :=
  (s.calls.lookup id).bind fun
    | .enroll e => if e.phase = p then some e else none
    | .issue _ _ => none

def endCall : State Claims Row Req := { s with calls := s.calls.erase id }

def setIssue (c : Claims) (p : IssuePhase) : State Claims Row Req :=
  { s with calls := s.calls.insert id (.issue c p) }

def setEnroll (e : Enrollment Claims Req) (p : EnrollPhase) : State Claims Row Req :=
  { s with calls := s.calls.insert id (.enroll { e with phase := p }) }

/-- The deletion of an entry, as it ends. -/
def delete (j : Jti) (o : Outcome) : State Claims Row Req :=
  if o.applied then { s with entries := s.entries.erase j } else s

def makeCurrent (c : Claims) (row : Row) : State Claims Row Req :=
  { s with
    rows := s.rows.insert (K.rowId c) (K.withToken c row)
    history := (K.rowId c, K.jti c) :: s.history }

def activate (e : Enrollment Claims Req) (serial : ℕ) (now : ℤ) (row : Row) :
    State Claims Row Req :=
  { s with
    rows := s.rows.insert (K.rowId e.claims) (K.enrolled e.claims e.req serial now row)
    commits := (K.rowId e.claims, K.jti e.claims) :: s.commits }

/-- Another token was made current for the row after this one, and has been returned. -/
def outdated (c : Claims) : Bool :=
  s.returned.any fun c' => K.rowId c' == K.rowId c &&
    decide ([K.jti c', K.jti c].Sublist (tokensOf s.history (K.rowId c)))

end State

def step [DecidableEq Claims] (s : State Claims Row Req) :
    Action Claims Row Req → Option (State Claims Row Req)
  | .create k row =>
    if s.rows.lookup k = none ∧ K.pending row ∧ K.token row = none then
      some { s with rows := s.rows.insert k row }
    else none
  | .issue id c =>
    if s.calls.lookup id = none ∧ K.jti c ∉ s.signed.map K.jti then
      some ({ s with signed := c :: s.signed }.setIssue id c .signed)
    else none
  | .store id o =>
    (s.issueIn id .signed).map fun c =>
      let s := if o.applied then { s with entries := s.entries.insert (K.jti c) (K.rowId c) } else s
      if o = .ok then s.setIssue id c .stored else s.endCall id
  | .swap id o =>
    (s.issueIn id .stored).bind fun c =>
      if Free K s.calls (K.rowId c) then
        match (s.rows.lookup (K.rowId c)).filter (fun row => K.pending row && K.swaps c row) with
        | none => some (s.setIssue id c .unused)
        | some row =>
          let s := if o.applied then s.makeCurrent K c row else s
          if o = .ok then
            match K.token row with
            | some previous =>
              some (s.setIssue id c (if previous = K.jti c then .done else .swapped previous))
            | none => some (s.setIssue id c .done)
          else some (s.setIssue id c .unused)
      else none
  | .dropUnused id o =>
    (s.issueIn id .unused).map fun c => (s.delete (K.jti c) o).endCall id
  | .dropPrevious id o =>
    (s.calls.lookup id).bind fun
      | .issue c (.swapped previous) => some ((s.delete previous o).setIssue id c .done)
      | _ => none
  | .returnToken id =>
    (s.issueIn id .done).map fun c => { s.endCall id with returned := c :: s.returned }
  | .enroll id c req =>
    if s.calls.lookup id = none ∧ c ∈ s.signed ∧ K.complete c then
      some (s.setEnroll id ⟨c, req, s.outdated K c, .verified⟩ .verified)
    else none
  | .peek id o =>
    (s.enrollmentIn id .verified).map fun e =>
      if o = .ok ∧ s.entries.lookup (K.jti e.claims) = some (K.rowId e.claims) ∧
          K.csrOk e.claims e.req then
        s.setEnroll id e .stored
      else s.endCall id
  | .claim id =>
    (s.enrollmentIn id .stored).bind fun e =>
      if Free K s.calls (K.rowId e.claims) then
        if (s.rows.lookup (K.rowId e.claims)).any fun row =>
            K.pending row && K.token row == some (K.jti e.claims) && K.agrees e.claims row then
          some (s.setEnroll id e .claimed)
        else some (s.endCall id)
      else none
  | .load id ok =>
    (s.enrollmentIn id .claimed).map fun e =>
      if ok then s.setEnroll id e .loaded else s.endCall id
  | .commit id serial now o =>
    (s.enrollmentIn id .loaded).bind fun e =>
      (s.rows.lookup (K.rowId e.claims)).map fun row =>
        if K.pending row && K.token row == some (K.jti e.claims) then
          let s := if o.applied then s.activate K e serial now row else s
          if o = .ok then s.setEnroll id e (.committed serial) else s.endCall id
        else s.endCall id
  | .consume id o =>
    (s.calls.lookup id).bind fun
      | .enroll ⟨c, req, outdated, .committed serial⟩ =>
        some ((s.delete (K.jti c) o).setEnroll id ⟨c, req, outdated, .committed serial⟩
          (.consumed serial))
      | _ => none
  | .respond id =>
    (s.calls.lookup id).bind fun
      | .enroll ⟨c, _, _, .consumed serial⟩ =>
        some { s.endCall id with certificates := (K.rowId c, serial) :: s.certificates }
      | _ => none
  | .abandon id => some (s.endCall id)
  | .expire j => some { s with entries := s.entries.erase j }

/-! ### What is known of tables and calls -/

/-- The row is enrolled with the serial. -/
def Recorded (rows : Map RowId Row) (q : RowId × ℕ) : Prop :=
  ∃ row, rows.lookup q.1 = some row ∧ K.pending row = false ∧ K.serial row = some q.2

/-- The row is pending, and the token is its current one. -/
def Current (rows : Map RowId Row) (c : Claims) : Prop :=
  ∃ row, rows.lookup (K.rowId c) = some row ∧ K.pending row = true ∧ K.token row = some (K.jti c)

def CallOk (s : State Claims Row Req) : Call Claims Req → Prop
  | .issue c p =>
    c ∈ s.signed ∧ (p = .signed ∨ p = .stored → K.jti c ∉ s.history.map Prod.snd)
  | .enroll e =>
    e.claims ∈ s.signed ∧
      (e.outdated = true → K.jti e.claims ∈ (tokensOf s.history (K.rowId e.claims)).tail) ∧
      (e.phase = .claimed ∨ e.phase = .loaded → Current K s.rows e.claims) ∧
      ∀ n, e.phase = .committed n ∨ e.phase = .consumed n →
        Recorded K s.rows (K.rowId e.claims, n)

structure Inv (s : State Claims Row Req) : Prop where
  signed : (s.signed.map K.jti).Nodup
  once : (s.history.map Prod.snd).Nodup
  known : ∀ q ∈ s.history, q.2 ∈ s.signed.map K.jti
  /-- the current token is the newest one, and the row agrees with its claims -/
  token : ∀ k row j, s.rows.lookup k = some row → K.pending row = true → K.token row = some j →
    (tokensOf s.history k).head? = some j ∧
      ∃ c ∈ s.signed, K.jti c = j ∧ K.agrees c row = true
  commits : (s.commits.map Prod.fst).Nodup
  settled : ∀ q ∈ s.commits, ∃ row, s.rows.lookup q.1 = some row ∧ K.pending row = false
  recorded : ∀ q ∈ s.certificates, Recorded K s.rows q
  calls : ∀ i call, s.calls.lookup i = some call → CallOk K s call
  unique : ∀ i j ci cj k, s.calls.lookup i = some ci → s.calls.lookup j = some cj →
    ci.holds K = some k → cj.holds K = some k → i = j
  distinct : ∀ i j c c' p p', s.calls.lookup i = some (.issue c p) →
    s.calls.lookup j = some (.issue c' p') → K.jti c = K.jti c' → i = j

variable {j : Jti} {l : List Jti} {q : RowId × Jti} {history : List (RowId × Jti)} {k : RowId}
  {p' : IssuePhase} {a : Action Claims Row Req}

lemma inv_start : Inv K (start : State Claims Row Req) where
  signed := .nil
  once := .nil
  known := nofun
  token := nofun
  commits := .nil
  settled := nofun
  recorded := nofun
  calls := nofun
  unique := nofun
  distinct := nofun

section Lists

lemma tokensOf_cons (q : RowId × Jti) (history : List (RowId × Jti)) (k : RowId) :
    tokensOf (q :: history) k =
      if q.1 = k then q.2 :: tokensOf history k else tokensOf history k := by
  by_cases hq : q.1 = k <;> simp [tokensOf, hq]

lemma mem_tail_of_sublist {j' : Jti} (h : [j', j].Sublist l) : j ∈ l.tail := by
  cases h with
  | cons x h | cons_cons x h => exact h.subset (by simp)

lemma nodup_tokensOf (h : (history.map Prod.snd).Nodup) (k : RowId) : (tokensOf history k).Nodup :=
  h.sublist (filter_sublist.map Prod.snd)

lemma notMem_tail_of_head (h : l.Nodup) (hj : l.head? = some j) : j ∉ l.tail := by
  cases l with
  | nil => cases hj
  | cons x l =>
    cases hj
    exact (nodup_cons.1 h).1

end Lists

variable {K} {s s' : State Claims Row Req} {id : CallId} {c : Claims} {p : IssuePhase}
  {e : Enrollment Claims Req} {row : Row}

lemma Recorded.mono {rows rows' q} (h : Recorded K rows q)
    (hr : ∀ k row, rows.lookup k = some row → K.pending row = false → rows'.lookup k = some row) :
    Recorded K rows' q := by
  obtain ⟨row, hrow, hp, hs⟩ := h
  exact ⟨row, hr _ row hrow hp, hp, hs⟩

lemma settled_insert (hrow : s.rows.lookup k = some row) (hp : K.pending row = true)
    (row' : Row) : ∀ k' r, s.rows.lookup k' = some r → K.pending r = false →
      (s.rows.insert k row').lookup k' = some r := by
  intro k' r hr hn
  refine (lookup_insert_ne ?_).trans hr
  rintro rfl
  rw [some.inj (hrow.symm.trans hr), hn] at hp
  cases hp

lemma CallOk.mono {call : Call Claims Req} (h : CallOk K s call)
    (hs : ∀ c ∈ s.signed, c ∈ s'.signed)
    (hh : s'.history = s.history ∨ ∃ q, s'.history = q :: s.history ∧
      ∀ c p, call = .issue c p → p = .signed ∨ p = .stored → K.jti c ≠ q.2)
    (hrw : ∀ k row, s.rows.lookup k = some row →
      K.pending row = false ∨ call.holds K = some k → s'.rows.lookup k = some row) :
    CallOk K s' call := by
  cases call with
  | issue c p =>
    refine ⟨hs c h.1, fun hp => ?_⟩
    rcases hh with heq | ⟨q, heq, hne⟩
    · rw [heq]
      exact h.2 hp
    · rw [heq, map_cons, mem_cons, not_or]
      exact ⟨hne c p rfl hp, h.2 hp⟩
  | enroll e =>
    obtain ⟨hm, ho, hcl, hc⟩ := h
    refine ⟨hs _ hm, fun hout => ?_, fun hp => ?_, fun n hn => ?_⟩
    · rcases hh with heq | ⟨q, heq, -⟩
      · rw [heq]
        exact ho hout
      · rw [heq]
        have h := ho hout
        rw [tokensOf_cons]
        split
        · exact mem_of_mem_tail h
        · exact h
    · obtain ⟨row, hr, hcr⟩ := hcl hp
      exact ⟨row, hrw _ row hr (.inr (if_pos hp)), hcr⟩
    · exact (hc n hn).mono fun k row hr hpn => hrw k row hr (.inl hpn)

section

variable (h : Inv K s)
include h

lemma Inv.endCall (id : CallId) : Inv K (s.endCall id) := { h with
    calls := forall_lookup_erase h.calls
    unique := fun i j ci cj k hi hj =>
      h.unique i j ci cj k (lookup_erase_eq_some.1 hi).1 (lookup_erase_eq_some.1 hj).1
    distinct := fun i j c c' p p' hi hj =>
      h.distinct i j c c' p p' (lookup_erase_eq_some.1 hi).1 (lookup_erase_eq_some.1 hj).1 }

lemma Inv.distinct_setIssue
    (ho : ∀ j c' q, s.calls.lookup j = some (.issue c' q) → K.jti c = K.jti c' → j = id) :
    ∀ i j a b q q', (s.setIssue id c p).calls.lookup i = some (.issue a q) →
      (s.setIssue id c p).calls.lookup j = some (.issue b q') → K.jti a = K.jti b → i = j := by
  intro i j a b q q' hi hj heq
  rcases lookup_insert_eq_some.1 hi with ⟨rfl, hci⟩ | ⟨-, hi'⟩ <;>
    rcases lookup_insert_eq_some.1 hj with ⟨rfl, hcj⟩ | ⟨-, hj'⟩
  · rfl
  · cases hci
    exact (ho j b q' hj' heq).symm
  · cases hcj
    exact ho i a q hi' heq.symm
  · exact h.distinct i j a b q q' hi' hj' heq

lemma Inv.setIssue (hid : s.calls.lookup id = some (.issue c p))
    (hp' : p' = .signed ∨ p' = .stored → p = .signed ∨ p = .stored) :
    Inv K (s.setIssue id c p') := by
  obtain ⟨hm, hh⟩ := h.calls id _ hid
  refine { h with calls := ?_, unique := ?_, distinct := ?_ }
  · exact forall_lookup_insert h.calls ⟨hm, fun hp => hh (hp' hp)⟩
  · exact exclusive_insert h.unique (by rintro _ ⟨⟩)
  · exact h.distinct_setIssue fun j c' q hj heq => (h.distinct id j c c' p q hid hj heq).symm

lemma Inv.setEnroll (hok : CallOk K s (.enroll e))
    (hh : ∀ k, (Call.enroll e).holds K = some k → Free K s.calls k ∨
      ∃ old, s.calls.lookup id = some old ∧ old.holds K = some k) :
    Inv K { s with calls := s.calls.insert id (.enroll e) } := by
  refine { h with calls := forall_lookup_insert h.calls hok,
                  unique := exclusive_insert h.unique hh, distinct := ?_ }
  intro i j a b q q' hi hj heq
  rcases lookup_insert_eq_some.1 hi with ⟨-, hci⟩ | ⟨-, hi'⟩
  · cases hci
  rcases lookup_insert_eq_some.1 hj with ⟨-, hcj⟩ | ⟨-, hj'⟩
  · cases hcj
  exact h.distinct i j a b q q' hi' hj' heq

lemma Inv.create (hn : s.rows.lookup k = none) (ht : K.token row = none) :
    Inv K { s with rows := s.rows.insert k row } := by
  have hk : ∀ k' r, s.rows.lookup k' = some r → (s.rows.insert k row).lookup k' = some r :=
    fun k' r => lookup_insert_of_new hn
  refine { h with token := ?_, settled := ?_, recorded := ?_, calls := ?_ }
  · intro k' r j hr hp hj
    rcases lookup_insert_eq_some.1 hr with ⟨-, rfl⟩ | ⟨-, hr'⟩
    · rw [ht] at hj
      cases hj
    · exact h.token k' r j hr' hp hj
  · intro q hq
    obtain ⟨r, hr, hp⟩ := h.settled q hq
    exact ⟨r, hk _ r hr, hp⟩
  · exact fun q hq => (h.recorded q hq).mono fun k' r hr _ => hk k' r hr
  · exact fun i call hi => (h.calls i call hi).mono (fun _ hc => hc) (.inl rfl)
      fun k' r hr _ => hk k' r hr

lemma Inv.issue (hn : K.jti c ∉ s.signed.map K.jti) :
    Inv K ({ s with signed := c :: s.signed }.setIssue id c .signed) := by
  have hh : K.jti c ∉ s.history.map Prod.snd := by
    intro hm
    obtain ⟨q, hq, heq⟩ := List.mem_map.1 hm
    exact hn (heq ▸ h.known q hq)
  have ho : ∀ i c' p', s.calls.lookup i = some (.issue c' p') → K.jti c ≠ K.jti c' := by
    intro i c' p' hi heq
    exact hn (heq ▸ List.mem_map_of_mem (h.calls i _ hi).1)
  refine { h with signed := ?_, known := ?_, token := ?_, calls := ?_, unique := ?_,
                  distinct := ?_ }
  · exact nodup_cons.2 ⟨hn, h.signed⟩
  · exact fun q hq => mem_cons_of_mem _ (h.known q hq)
  · intro k r j hr hp hj
    obtain ⟨hhd, c', hc', ha⟩ := h.token k r j hr hp hj
    exact ⟨hhd, c', mem_cons_of_mem c hc', ha⟩
  · refine forall_lookup_insert (fun i call hi => ?_) ⟨mem_cons_self, fun _ => hh⟩
    exact (h.calls i call hi).mono (fun c' => mem_cons_of_mem c) (.inl rfl) fun k r hr _ => hr
  · exact exclusive_insert h.unique nofun
  · exact h.distinct_setIssue fun j c' q hj heq => absurd heq (ho j c' q hj)

lemma Inv.makeCurrent (hm : c ∈ s.signed) (hh : K.jti c ∉ s.history.map Prod.snd)
    (hcl : ∀ i c' p', s.calls.lookup i = some (.issue c' p') → p' = .signed ∨ p' = .stored →
      K.jti c' ≠ K.jti c) (hf : Free K s.calls (K.rowId c))
    (hrow : s.rows.lookup (K.rowId c) = some row) (hpn : K.pending row = true)
    (hs : K.swaps c row = true) :
    Inv K (s.makeCurrent K c row) := by
  have hkp := settled_insert hrow hpn (K.withToken c row)
  refine { h with once := ?_, known := ?_, token := ?_, settled := ?_, recorded := ?_, calls := ?_ }
  · exact nodup_cons.2 ⟨hh, h.once⟩
  · exact forall_mem_cons.2 ⟨List.mem_map_of_mem hm, h.known⟩
  · intro k r j hr hp hj
    rcases lookup_insert_eq_some.1 hr with ⟨rfl, rfl⟩ | ⟨hk, hr'⟩
    · rw [K.token_withToken] at hj
      cases hj
      refine ⟨?_, c, hm, rfl, K.agrees_withToken c row hs⟩
      rw [State.makeCurrent, tokensOf_cons, if_pos rfl]
      rfl
    · rw [State.makeCurrent, tokensOf_cons, if_neg (Ne.symm hk)]
      exact h.token k r j hr' hp hj
  · intro q hq
    obtain ⟨r, hr, hn⟩ := h.settled q hq
    exact ⟨r, hkp _ r hr hn, hn⟩
  · exact fun q hq => (h.recorded q hq).mono hkp
  · intro i call hi
    refine (h.calls i call hi).mono (fun _ hc => hc) (.inr ⟨_, rfl, ?_⟩) fun k r hr hor => ?_
    · rintro c' p' rfl hp'
      exact hcl i c' p' hi hp'
    · rcases hor with hn | hhl
      · exact hkp k r hr hn
      · refine (lookup_insert_ne ?_).trans hr
        rintro rfl
        exact hf i call hi hhl

lemma Inv.activate (he : s.calls.lookup id = some (.enroll e)) (hp : e.phase = .loaded)
    (hrow : s.rows.lookup (K.rowId e.claims) = some row) (hpn : K.pending row = true)
    {calls' : Map CallId (Call Claims Req)}
    (hc' : ∀ i call, calls'.lookup i = some call → i ≠ id ∧ s.calls.lookup i = some call ∨
      i = id ∧ call = .enroll { e with phase := .committed sn }) :
    Inv K { s.activate K e sn now row with calls := calls' } := by
  have hk := settled_insert hrow hpn (K.enrolled e.claims e.req sn now row)
  have hs : Recorded K (s.activate K e sn now row).rows (K.rowId e.claims, sn) :=
    ⟨_, lookup_insert _, K.pending_enrolled .., K.serial_enrolled ..⟩
  have hh : (Call.enroll e).holds K = some (K.rowId e.claims) := if_pos (.inr hp)
  refine ⟨h.signed, h.once, h.known, ?_, ?_, ?_, ?_, ?_, ?_, ?_⟩
  · intro k r j hr hpnd hj
    rcases lookup_insert_eq_some.1 hr with ⟨rfl, rfl⟩ | ⟨-, hr'⟩
    · rw [K.pending_enrolled] at hpnd
      cases hpnd
    · exact h.token k r j hr' hpnd hj
  · refine nodup_cons.2 ⟨fun hm => ?_, h.commits⟩
    obtain ⟨q, hq, heq⟩ := List.mem_map.1 hm
    obtain ⟨r, hr, hnot⟩ := h.settled q hq
    rw [heq, hrow] at hr
    rw [some.inj hr, hnot] at hpn
    cases hpn
  · refine forall_mem_cons.2 ⟨⟨_, lookup_insert _, K.pending_enrolled ..⟩, ?_⟩
    intro q hq
    obtain ⟨r, hr, hnot⟩ := h.settled q hq
    exact ⟨r, hk _ r hr hnot, hnot⟩
  · exact fun q hq => (h.recorded q hq).mono hk
  · intro i call hi
    rcases hc' i call hi with ⟨hne, hi'⟩ | ⟨-, rfl⟩
    · refine (h.calls i call hi').mono (fun _ hc => hc) (.inl rfl) fun k r hr hor => ?_
      rcases hor with hnot | hoth
      · exact hk k r hr hnot
      · refine (lookup_insert_ne ?_).trans hr
        rintro rfl
        exact hne (h.unique i id call _ _ hi' he hoth hh)
    · obtain ⟨hm, ho, -, -⟩ := h.calls id _ he
      refine ⟨hm, ho, by simp, fun n hn => ?_⟩
      rcases hn with hn | hn <;> cases hn
      exact hs
  · intro i j ci cj k hi hj hci hcj
    rcases hc' i ci hi with ⟨-, hi'⟩ | ⟨-, rfl⟩
    · rcases hc' j cj hj with ⟨-, hj'⟩ | ⟨-, rfl⟩
      · exact h.unique i j ci cj k hi' hj' hci hcj
      · simp [Call.holds] at hcj
    · simp [Call.holds] at hci
  · intro i j a b q q' hi hj heq
    rcases hc' i _ hi with ⟨-, hi'⟩ | ⟨-, hci⟩
    · rcases hc' j _ hj with ⟨-, hj'⟩ | ⟨-, hcj⟩
      · exact h.distinct i j a b q q' hi' hj' heq
      · cases hcj
    · cases hci

end

/-! ### The steps -/

lemma issueIn_eq_some (h : s.issueIn id p = some c) : s.calls.lookup id = some (.issue c p) := by
  obtain ⟨call, hcl, hc⟩ := bind_eq_some_iff.1 h
  cases call with
  | issue c' p' =>
    obtain ⟨rfl, rfl⟩ := ite_some_none_eq_some.1 hc
    exact hcl
  | enroll e => cases hc

lemma enrollmentIn_eq_some {p : EnrollPhase} (h : s.enrollmentIn id p = some e) :
    s.calls.lookup id = some (.enroll e) ∧ e.phase = p := by
  obtain ⟨call, hc, he⟩ := bind_eq_some_iff.1 h
  cases call with
  | issue c' p' => cases he
  | enroll e' =>
    obtain ⟨hp, rfl⟩ := ite_some_none_eq_some.1 he
    exact ⟨hc, hp⟩

lemma delete_eq (j : Jti) (o : Outcome) :
    (s.delete j o).calls = s.calls ∧ (s.delete j o).commits = s.commits := by
  unfold State.delete
  split <;> exact ⟨rfl, rfl⟩

lemma Inv.delete (h : Inv K s) (j : Jti) (o : Outcome) : Inv K (s.delete j o) := by
  unfold State.delete
  split
  · exact { h with }
  · exact h

lemma Inv.swap (h : Inv K s) (hid : s.calls.lookup id = some (.issue c .stored))
    (hf : Free K s.calls (K.rowId c)) (hr : s.rows.lookup (K.rowId c) = some row)
    (hpn : K.pending row = true) (hs : K.swaps c row = true) {o : Outcome}
    (hp' : ¬(p' = .signed ∨ p' = .stored)) :
    Inv K ((if o.applied then s.makeCurrent K c row else s).setIssue id c p') := by
  obtain ⟨hm, hh⟩ := h.calls id _ hid
  have hset : Inv K (s.setIssue id c p') := h.setIssue hid fun hp => absurd hp hp'
  split
  · refine hset.makeCurrent hm (hh (.inr rfl)) (fun i c' p'' hi hp'' heq => ?_) ?_ hr hpn hs
    · rcases lookup_insert_eq_some.1 hi with ⟨-, hci⟩ | ⟨hne, hi'⟩
      · cases hci
        exact hp' hp''
      · exact hne (h.distinct i id c' c _ _ hi' hid heq)
    · exact All.insert hf (by simp [Call.holds])
  · exact hset

variable (K) in
/-- The token can enroll its row: it is current, and stored. -/
def Usable (s : State Claims Row Req) (c : Claims) : Prop :=
  c ∈ s.signed ∧ Current K s.rows c ∧ s.entries.lookup (K.jti c) = some (K.rowId c)

/-- A step of an enrollment, or its failure. -/
def Action.ofEnroll : Action Claims Row Req → Bool
  | .enroll .. | .peek .. | .claim _ | .load .. | .commit .. | .consume .. | .respond _
  | .abandon _ => true
  | _ => false

lemma Inv.eq_of_jti (h : Inv K s) {c c'} (hc : c ∈ s.signed) (hc' : c' ∈ s.signed)
    (heq : K.jti c = K.jti c') : c = c' := inj_on_of_nodup_map h.signed hc hc' heq

lemma Inv.usable_delete (h : Inv K s) {j : ℕ} (he : s.calls.lookup id = some (.enroll e))
    (hp : e.phase = .committed j) {c : Claims} (hu : Usable K s c) (o : Outcome) :
    Usable K (s.delete (K.jti e.claims) o) c := by
  obtain ⟨hm, hc, hen⟩ := hu
  unfold State.delete
  split
  · refine ⟨hm, hc, lookup_erase_eq_some.2 ⟨hen, fun heq => ?_⟩⟩
    obtain ⟨hm', -, -, hr⟩ := h.calls id _ he
    obtain ⟨row, hrow, hpn, -⟩ := hc
    obtain ⟨row', hr', hn, -⟩ := hr j (.inl hp)
    rw [h.eq_of_jti hm hm' heq, hr'] at hrow
    rw [← some.inj hrow, hn] at hpn
    cases hpn
  · exact ⟨hm, hc, hen⟩

variable (K) in
/-- Only a commit enrolls; and the other steps of an enrollment leave the tokens alone, but for the
entry of one whose row is enrolled. -/
def Enrolls (s : State Claims Row Req) (a : Action Claims Row Req) (s' : State Claims Row Req) :
    Prop :=
  (∃ id serial now o e, a = .commit id serial now o ∧ s.calls.lookup id = some (.enroll e) ∧
    e.phase = .loaded ∧ s'.commits = (K.rowId e.claims, K.jti e.claims) :: s.commits) ∨
  s'.commits = s.commits ∧ (a.ofEnroll = true → ∀ c, Usable K s c → Usable K s' c)

lemma Enrolls.other (h : s'.commits = s.commits) (ha : a.ofEnroll = false) : Enrolls K s a s' :=
  .inr ⟨h, fun ha' => by rw [ha] at ha'; cases ha'⟩

lemma Inv.next [DecidableEq Claims] (h : Inv K s) (hs : step K s a = some s') :
    Inv K s' ∧ Enrolls K s a s' := by
  cases a with
  | create k row =>
    obtain ⟨⟨hnew, -, ht⟩, rfl⟩ := ite_some_none_eq_some.1 hs
    exact ⟨h.create hnew ht, .other rfl rfl⟩
  | issue id c =>
    obtain ⟨⟨-, hnew⟩, rfl⟩ := ite_some_none_eq_some.1 hs
    exact ⟨h.issue hnew, .other rfl rfl⟩
  | store id o =>
    obtain ⟨c, hc, rfl⟩ := map_eq_some_iff.1 hs
    have hid := issueIn_eq_some hc
    have hst : Inv K (if o.applied then
        { s with entries := s.entries.insert (K.jti c) (K.rowId c) } else s) := by
      split
      · exact { h with }
      · exact h
    have hid' : (if o.applied then { s with entries := s.entries.insert (K.jti c) (K.rowId c) }
        else s).calls.lookup id = some (.issue c .signed) := by
      split <;> exact hid
    refine ⟨?_, .other (by rcases o with _ | _ | _ <;> rfl) rfl⟩
    dsimp only
    split
    · exact hst.setIssue hid' fun _ => .inl rfl
    · exact hst.endCall id
  | swap id o =>
    obtain ⟨c, hc, hs⟩ := bind_eq_some_iff.1 hs
    have hid := issueIn_eq_some hc
    obtain ⟨hf, hs⟩ := ite_none_right_eq_some.1 hs
    split at hs
    next =>
      cases hs
      exact ⟨h.setIssue hid (by simp), .other rfl rfl⟩
    next row hrow =>
      obtain ⟨hrow, hm⟩ := filter_eq_some_iff.1 hrow
      obtain ⟨hpn, hsw⟩ := Bool.and_eq_true_iff.1 hm
      have hcm : (if o.applied then s.makeCurrent K c row else s).commits = s.commits := by
        split <;> rfl
      dsimp only at hs
      split at hs
      next =>
        split at hs
        next prev hpr =>
          cases hs
          refine ⟨h.swap hid hf hrow hpn hsw ?_, .other hcm rfl⟩
          split <;> simp
        next =>
          cases hs
          exact ⟨h.swap hid hf hrow hpn hsw (by simp), .other hcm rfl⟩
      next =>
        cases hs
        exact ⟨h.swap hid hf hrow hpn hsw (by simp), .other hcm rfl⟩
  | dropUnused id o =>
    obtain ⟨c, hc, rfl⟩ := map_eq_some_iff.1 hs
    exact ⟨(h.delete _ o).endCall id, .other (delete_eq _ o).2 rfl⟩
  | dropPrevious id o =>
    obtain ⟨call, hcll, hs⟩ := bind_eq_some_iff.1 hs
    split at hs
    next c prev =>
      cases hs
      obtain ⟨hcl, hcm⟩ := delete_eq (s := s) prev o
      rw [← hcl] at hcll
      exact ⟨(h.delete prev o).setIssue hcll (by simp), .other hcm rfl⟩
    next => cases hs
  | returnToken id =>
    obtain ⟨c, hc, rfl⟩ := map_eq_some_iff.1 hs
    have hend := h.endCall id
    exact ⟨{ hend with }, .other rfl rfl⟩
  | enroll id c req =>
    obtain ⟨⟨-, hmem, -⟩, rfl⟩ := ite_some_none_eq_some.1 hs
    refine ⟨h.setEnroll ⟨hmem, fun ho => ?_, by simp, by simp⟩
      (fun k hk => by simp [Call.holds] at hk), .inr ⟨rfl, fun _ _ hu => hu⟩⟩
    simp only [State.outdated, List.any_eq_true, Bool.and_eq_true, decide_eq_true_eq] at ho
    obtain ⟨c', -, -, hsub⟩ := ho
    exact mem_tail_of_sublist hsub
  | peek id o =>
    obtain ⟨e, he, rfl⟩ := map_eq_some_iff.1 hs
    obtain ⟨hid, hp⟩ := enrollmentIn_eq_some he
    split
    · obtain ⟨hmem, ho, -, -⟩ := h.calls id _ hid
      exact ⟨h.setEnroll ⟨hmem, ho, by simp, by simp⟩ (fun k hk => by simp [Call.holds] at hk),
        .inr ⟨rfl, fun _ _ hu => hu⟩⟩
    · exact ⟨h.endCall id, .inr ⟨rfl, fun _ _ hu => hu⟩⟩
  | claim id =>
    obtain ⟨e, he, hs⟩ := bind_eq_some_iff.1 hs
    obtain ⟨hid, hp⟩ := enrollmentIn_eq_some he
    obtain ⟨hf, hs⟩ := ite_none_right_eq_some.1 hs
    split at hs
    next ha =>
      cases hs
      obtain ⟨row, hrow, hro⟩ := (Option.any_eq_true ..).1 ha
      simp only [Bool.and_eq_true, beq_iff_eq] at hro
      obtain ⟨hmem, ho, -, -⟩ := h.calls id _ hid
      refine ⟨h.setEnroll ⟨hmem, ho, fun _ => ⟨row, hrow, hro.1⟩, by simp⟩ fun k hk => ?_,
        .inr ⟨rfl, fun _ _ hu => hu⟩⟩
      obtain rfl : K.rowId e.claims = k := by simpa [Call.holds] using hk
      exact .inl hf
    next =>
      cases hs
      exact ⟨h.endCall id, .inr ⟨rfl, fun _ _ hu => hu⟩⟩
  | load id ok =>
    obtain ⟨e, he, rfl⟩ := map_eq_some_iff.1 hs
    obtain ⟨hid, hp⟩ := enrollmentIn_eq_some he
    split
    · obtain ⟨hmem, ho, hcr, -⟩ := h.calls id _ hid
      refine ⟨h.setEnroll ⟨hmem, ho, fun _ => hcr (.inl hp), by simp⟩ fun k hk => ?_,
        .inr ⟨rfl, fun _ _ hu => hu⟩⟩
      refine .inr ⟨_, hid, ?_⟩
      simpa [Call.holds, hp] using hk
    · exact ⟨h.endCall id, .inr ⟨rfl, fun _ _ hu => hu⟩⟩
  | commit id serial now o =>
    obtain ⟨e, he, hs⟩ := bind_eq_some_iff.1 hs
    obtain ⟨hid, hp⟩ := enrollmentIn_eq_some he
    obtain ⟨row, hrow, rfl⟩ := map_eq_some_iff.1 hs
    split
    next hok =>
      have hpn := (Bool.and_eq_true_iff.1 hok).1
      cases o with
      | ok =>
        refine ⟨h.activate hid hp hrow hpn fun i call hi => ?_,
          .inl ⟨id, serial, now, _, e, rfl, hid, hp, rfl⟩⟩
        rcases lookup_insert_eq_some.1 hi with ⟨rfl, rfl⟩ | ⟨hne, hi'⟩
        · exact .inr ⟨rfl, rfl⟩
        · exact .inl ⟨hne, hi'⟩
      | failed applied =>
        cases applied with
        | false => exact ⟨h.endCall id, .inr ⟨rfl, fun _ _ hu => hu⟩⟩
        | true =>
          refine ⟨h.activate hid hp hrow hpn fun i call hi => ?_,
            .inl ⟨id, serial, now, _, e, rfl, hid, hp, rfl⟩⟩
          obtain ⟨hi', hne⟩ := lookup_erase_eq_some.1 hi
          exact .inl ⟨hne, hi'⟩
    next => exact ⟨h.endCall id, .inr ⟨rfl, fun _ _ hu => hu⟩⟩
  | consume id o =>
    obtain ⟨call, hcll, hs⟩ := bind_eq_some_iff.1 hs
    split at hs
    next c req out serial =>
      cases hs
      have hd := h.delete (K.jti c) o
      obtain ⟨hcl, hcm⟩ := delete_eq (s := s) (K.jti c) o
      obtain ⟨hmem, ho, -, hr⟩ := hd.calls id _ (by rw [hcl, hcll])
      refine ⟨hd.setEnroll ⟨hmem, ho, by simp, fun n hn => hr n ?_⟩
        (fun k hk => by simp [Call.holds] at hk),
        .inr ⟨hcm, fun _ _ hu => h.usable_delete hcll rfl hu o⟩⟩
      simpa using hn
    next => cases hs
  | respond id =>
    obtain ⟨call, hcll, hs⟩ := bind_eq_some_iff.1 hs
    split at hs
    next c req out serial =>
      cases hs
      obtain ⟨-, -, -, hr⟩ := h.calls id _ hcll
      have hend := h.endCall id
      refine ⟨{ hend with recorded := ?_ }, .inr ⟨rfl, fun _ _ hu => hu⟩⟩
      exact forall_mem_cons.2 ⟨hr serial (.inr rfl), h.recorded⟩
    next => cases hs
  | abandon id =>
    cases hs
    exact ⟨h.endCall id, .inr ⟨rfl, fun _ _ hu => hu⟩⟩
  | expire j =>
    cases hs
    exact ⟨{ h with }, .other rfl rfl⟩

/-! ### What is claimed -/

/-- An enrollment that nothing disturbs. -/
def enrollment (id : CallId) (c : Claims) (req : Req) (serial : ℕ) (now : ℤ) :
    List (Action Claims Row Req) :=
  [.enroll id c req, .peek id .ok, .claim id, .load id true, .commit id serial now .ok,
    .consume id .ok, .respond id]

variable (K) in
structure TokensOk [DecidableEq Claims] (s : State Claims Row Req) (a : Action Claims Row Req)
    (s' : State Claims Row Req) : Prop where
  once : (s'.commits.map Prod.fst).Nodup
  /-- an enrollment commits with the token that is current at that moment, and never one that began
  after a newer token had been returned -/
  newest : ∀ q, s'.commits = q :: s.commits → ∃ id serial now o e, a = .commit id serial now o ∧
    s.calls.lookup id = some (.enroll e) ∧ q = (K.rowId e.claims, K.jti e.claims) ∧
    Current K s.rows e.claims ∧ e.outdated = false
  /-- an enrollment that does not commit takes no token away -/
  usable : a.ofEnroll = true → s'.commits = s.commits → ∀ c, Usable K s c → Usable K s' c
  /-- and with a usable token the next one succeeds, if nothing else is in its way -/
  retry : ∀ c id req serial now, Usable K s' c → Free K s'.calls (K.rowId c) →
    s'.calls.lookup id = none → K.complete c = true → K.csrOk c req = true →
    ∃ s'', exec (step K) s' (enrollment id c req serial now) = some s'' ∧
      s''.certificates = (K.rowId c, serial) :: s'.certificates
  /-- a certificate that has been returned is recorded in its row -/
  recorded : ∀ q ∈ s'.certificates,
    ∃ row, s'.rows.lookup q.1 = some row ∧ K.serial row = some q.2

lemma enrollmentIn_setEnroll (s : State Claims Row Req) (id : CallId) (e : Enrollment Claims Req)
    (p : EnrollPhase) : (s.setEnroll id e p).enrollmentIn id p = some { e with phase := p } := by
  simp [State.enrollmentIn, State.setEnroll]

lemma Inv.retry [DecidableEq Claims] (h : Inv K s) {req} (hu : Usable K s c)
    (hf : Free K s.calls (K.rowId c)) (hn : s.calls.lookup id = none) (hc : K.complete c = true)
    (hcsr : K.csrOk c req = true) :
    ∃ s'', exec (step K) s (enrollment id c req sn now) = some s'' ∧
      s''.certificates = (K.rowId c, sn) :: s.certificates := by
  obtain ⟨hm, ⟨row, hr, hp, ht⟩, he⟩ := hu
  have ha : K.agrees c row = true := by
    obtain ⟨-, c', hc', hj, ha⟩ := h.token _ row _ hr hp ht
    exact h.eq_of_jti hc' hm hj ▸ ha
  let e : Enrollment Claims Req := ⟨c, req, s.outdated K c, .verified⟩
  let s1 := s.setEnroll id e .verified
  let s2 := s1.setEnroll id e .stored
  let s3 := s2.setEnroll id e .claimed
  let s4 := s3.setEnroll id e .loaded
  let s5 := (s4.activate K e sn now row).setEnroll id e (.committed sn)
  let s6 := (s5.delete (K.jti c) .ok).setEnroll id e (.consumed sn)
  have hf2 : Free K s2.calls (K.rowId c) :=
    All.insert (All.insert hf (by simp [Call.holds])) (by simp [Call.holds])
  have h1 : step K s (.enroll id c req) = some s1 := if_pos ⟨hn, hm, hc⟩
  have h2 : step K s1 (.peek id .ok) = some s2 := by
    simp only [step, s1, enrollmentIn_setEnroll, map_some]
    rw [if_pos ⟨trivial, he, hcsr⟩]
  have h3 : step K s2 (.claim id) = some s3 := by
    simp only [step, s2, enrollmentIn_setEnroll, bind_some]
    rw [if_pos hf2, if_pos]
    · rfl
    · change (s.rows.lookup (K.rowId c)).any _ = true
      simp [hr, hp, ht, ha, e]
  have h4 : step K s3 (.load id true) = some s4 := by
    simp only [step, s3, enrollmentIn_setEnroll, map_some, if_true]
    rfl
  have h5 : step K s4 (.commit id sn now .ok) = some s5 := by
    have hr4 : s4.rows.lookup (K.rowId c) = some row := hr
    simp only [step, s4, enrollmentIn_setEnroll, bind_some, e, hr4, map_some, hp, ht,
      BEq.rfl, Bool.and_self, if_true, Outcome.applied]
    rfl
  have h6 : step K s5 (.consume id .ok) = some s6 := by
    simp only [step, s5, State.setEnroll, lookup_insert, bind_some]
    rfl
  refine ⟨{ s6.endCall id with certificates := (K.rowId c, sn) :: s.certificates }, ?_, rfl⟩
  have h7 : step K s6 (.respond id) =
      some { s6.endCall id with certificates := (K.rowId c, sn) :: s.certificates } := by
    simp only [step, s6, State.setEnroll, lookup_insert, bind_some]
    rfl
  rw [enrollment, exec_cons, h1, bind_some, exec_cons, h2, bind_some, exec_cons, h3,
    bind_some, exec_cons, h4, bind_some, exec_cons, h5, bind_some, exec_cons,
    h6, bind_some, exec_cons, h7, bind_some, exec_nil]

lemma Inv.outdated_eq_false (h : Inv K s) (he : s.calls.lookup id = some (.enroll e))
    (hc : Current K s.rows e.claims) : e.outdated = false := by
  by_contra ho
  obtain ⟨row, hr, hp, ht⟩ := hc
  obtain ⟨hh, -⟩ := h.token _ row _ hr hp ht
  have htl := (h.calls id _ he).2.1 (by simpa using ho)
  exact notMem_tail_of_head (nodup_tokensOf h.once _) hh htl

lemma always_tokensOk [DecidableEq Claims] (K : Kind Claims Row Req)
    (acts : List (Action Claims Row Req)) : Always (step K) (TokensOk K) start acts := by
  refine always_of_inv (fun s a s' hi hs => (hi.next hs).1) (fun s a s' hi hs => ?_) (inv_start K)
  obtain ⟨hi', hen⟩ := hi.next hs
  refine ⟨hi'.commits, fun q hq => ?_, fun ha hc c hu => ?_,
    fun c id req serial now => hi'.retry, fun q hq => ?_⟩
  · rcases hen with ⟨id, serial, now, o, e, ha, he, hp, hcm⟩ | ⟨hsm, -⟩
    · have hcr := (hi.calls id _ he).2.2.1 (.inr hp)
      exact ⟨id, serial, now, o, e, ha, he, (List.cons.inj (hq.symm.trans hcm)).1, hcr,
        hi.outdated_eq_false he hcr⟩
    · exact absurd (hq.symm.trans hsm) (cons_ne_self _ _)
  · rcases hen with ⟨id, serial, now, o, e, -, -, -, hcn⟩ | ⟨-, hus⟩
    · exact absurd (hcn.symm.trans hc) (cons_ne_self _ _)
    · exact hus ha c hu
  · obtain ⟨row, hr, -, hsr⟩ := hi'.recorded q hq
    exact ⟨row, hr, hsr⟩

end Model

/-! ### Shields and connectors -/

section Kinds

open Compiler (connectorSpiffeId)
open ShieldRows (ShieldRow Csr csrHasSpiffeUri shieldSpiffeId claimAgrees)

structure ShieldRequest where
  csr : Csr
  hostname : String
  version : String

def shieldKind : Kind ShieldRows.EnrollmentClaims ShieldRow ShieldRequest where
  jti := ShieldRows.EnrollmentClaims.id
  rowId := ShieldRows.EnrollmentClaims.shieldId
  complete := ShieldRows.EnrollmentClaims.complete
  csrOk := fun c req => csrHasSpiffeUri req.csr (shieldSpiffeId c.trustDomain c.shieldId)
  pending := fun row => row.status == .pending
  token := ShieldRow.enrollmentTokenJti
  serial := ShieldRow.certSerial
  swaps := fun c row => row.tenantId == c.workspaceId && row.remoteNetworkId == c.remoteNetworkId
  withToken := fun c row => row.withToken c
  agrees := claimAgrees
  enrolled := fun c req serial now row =>
    row.enrolled c req.csr.key serial req.hostname req.version now
  pending_withToken := fun _ _ => rfl
  token_withToken := fun _ _ => rfl
  agrees_withToken := fun c row h => by
    simp only [Bool.and_eq_true, beq_iff_eq] at h
    simp [claimAgrees, ShieldRow.withToken, h.1, h.2]
  pending_enrolled := fun _ _ _ _ _ => rfl
  serial_enrolled := fun _ _ _ _ _ => rfl

structure ConnectorClaims where
  id : Jti
  connectorId : String
  workspaceId : String
  trustDomain : String
  deriving DecidableEq

/-- No required claim is missing. -/
def ConnectorClaims.complete (c : ConnectorClaims) : Bool :=
  c.id != "" && c.connectorId != "" && c.workspaceId != "" && c.trustDomain != ""

/-- The columns of `connectors` that issues and enrollments read and write. -/
structure ConnectorColumns where
  tenantId : String
  status : ConnectorRow.Status
  enrollmentTokenJti : Option Jti
  trustDomain : Option String
  certSerial : Option ℕ
  hostname : Option String
  version : Option String
  lastHeartbeatAt : Option ℤ

structure ConnectorRequest where
  csr : Csr
  hostname : String
  version : String

def connectorKind : Kind ConnectorClaims ConnectorColumns ConnectorRequest where
  jti := ConnectorClaims.id
  rowId := ConnectorClaims.connectorId
  complete := ConnectorClaims.complete
  csrOk := fun c req => csrHasSpiffeUri req.csr (connectorSpiffeId c.trustDomain c.connectorId)
  pending := fun row => row.status == .pending
  token := ConnectorColumns.enrollmentTokenJti
  serial := ConnectorColumns.certSerial
  swaps := fun c row => row.tenantId == c.workspaceId
  withToken := fun c row => { row with enrollmentTokenJti := some c.id }
  agrees := fun c row => row.tenantId == c.workspaceId
  enrolled := fun c req serial now row =>
    { row with
      status := .active
      trustDomain := some c.trustDomain
      certSerial := some serial
      hostname := some req.hostname
      version := some req.version
      lastHeartbeatAt := some now
      enrollmentTokenJti := none }
  pending_withToken := fun _ _ => rfl
  token_withToken := fun _ _ => rfl
  agrees_withToken := fun _ _ h => h
  pending_enrolled := fun _ _ _ _ _ => rfl
  serial_enrolled := fun _ _ _ _ _ => rfl

/-- In every interleaving of token issues and enrollments, for shields and for connectors, whatever
fails: a row is enrolled at most once, with the token that is current then and never by an
enrollment that began after a newer token had been returned; an enrollment that fails leaves the
current token usable; and every certificate that is returned is recorded in its row. -/
theorem enrollment_tokens :
    (∀ acts, Always (step shieldKind) (TokensOk shieldKind) start acts) ∧
      ∀ acts, Always (step connectorKind) (TokensOk connectorKind) start acts :=
  ⟨always_tokensOk shieldKind, always_tokensOk connectorKind⟩

end Kinds

end Zecurity.EnrollmentTokens
