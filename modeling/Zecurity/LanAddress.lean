import Zecurity.Runs
import Zecurity.ShieldRows

/-!
Resources that follow their shield's LAN address (`UpdateShieldHealth` in
`controller/internal/shield/heartbeat.go`).

The statement has three parts with one snapshot: `current` reads the recorded address, `updated`
writes the row of the shield, `synced` re-points the resources that were at the address read.
It is two steps: what the snapshot holds, and what is committed. `updated` and `synced` look again
at rows that have changed meanwhile, but compare them with the address of the snapshot. An edit
stands for any other statement on a resource. Shields are not deleted here.
-/

namespace Zecurity.LanAddress

open AList FiniteMap Option Runs ShieldRows
open ResourceStore (ShieldId ResourceId)

abbrev CallId := ℕ

/-- The columns of a resource that a report reads. -/
structure Resource where
  shieldId : Option ShieldId
  host : String
  deriving DecidableEq

structure Shield where
  row : ShieldRow
  lanIp : Option String

/-- A report, with what its snapshot holds. -/
structure Report where
  connectorId : ConnectorId
  connector : Connector
  update : ShieldStatusUpdate
  lanIp : String
  current : Option String
  matched : List ResourceId

structure State where
  connectors : Map ConnectorId Connector
  shields : Map ShieldId Shield
  resources : Map ResourceId Resource
  calls : Map CallId Report
  /-- the resources that have been at their shield's address at some point since they were last
  edited -/
  tracked : Finset ResourceId

def start : State where
  connectors := ∅
  shields := ∅
  resources := ∅
  calls := ∅
  tracked := ∅

def nullIf (text : String) : Option String := if text = "" then none else some text

def address (shields : Map ShieldId Shield) (sh : ShieldId) : Option String :=
  (shields.lookup sh).bind Shield.lanIp

/-- The resource is at the recorded address of its shield. -/
def follows (shields : Map ShieldId Shield) (row : Resource) : Bool :=
  row.shieldId.bind (address shields) == some row.host

/-- Take note of the resources that are at their shield's address. -/
def State.observe (s : State) : State :=
  { s with
    tracked := s.tracked ∪ (retain s.resources fun _ row => follows s.shields row).keys.toFinset }

namespace Report

variable (r : Report)

/-- `updated`: the row, if the `WHERE` still holds and the table takes the status. -/
def updated (shield : Shield) : Option Shield :=
  (statusOf r.update.status).bind fun status =>
    if healthMatches r.connector shield.row then
      some ⟨shield.row.withHealth r.connectorId status r.update, nullIf r.lanIp⟩
    else none

def lanIpChanged : Bool := r.current != nullIf r.lanIp

/-- A resource that `synced` re-points. -/
def moves (id : ResourceId) (row : Resource) : Bool :=
  r.matched.contains id && row.shieldId == some r.update.shieldId &&
    some row.host == r.current && r.lanIpChanged

def synced (resources : Map ResourceId Resource) : Map ResourceId Resource :=
  mapValues resources fun id row => if r.moves id row then { row with host := r.lanIp } else row

end Report

inductive Action
  | connector (id : ConnectorId) (c : Connector)
  | addShield (sh : ShieldId) (row : ShieldRow)
  /-- a statement on the shield's row that leaves its address -/
  | setShield (sh : ShieldId) (row : ShieldRow)
  /-- a resource is created, edited, bound to another shield, or deleted -/
  | edit (id : ResourceId) (row : Option Resource)
  | read (id : CallId) (connectorId : ConnectorId) (u : ShieldStatusUpdate) (lanIp : String)
  | write (id : CallId)
  | abandon (id : CallId)

def step (s : State) : Action → Option State
  | .connector id c => some { s with connectors := s.connectors.insert id c }
  | .addShield sh row =>
    if s.shields.lookup sh = none then
      some { s with shields := s.shields.insert sh ⟨row, none⟩ }
    else none
  | .setShield sh row =>
    (s.shields.lookup sh).map fun shield =>
      { s with shields := s.shields.insert sh { shield with row := row } }
  | .edit id row =>
    some { s with
      resources := match row with
        | some row => s.resources.insert id row
        | none => s.resources.erase id
      tracked := s.tracked.erase id }.observe
  | .read id connectorId u lanIp =>
    (s.shields.lookup u.shieldId).bind fun shield =>
      (s.connectors.lookup connectorId).bind fun c =>
        if s.calls.lookup id = none ∧ healthMatches c shield.row then
          let matched := (retain s.resources fun _ row =>
            row.shieldId == some u.shieldId && (nullIf lanIp).isSome &&
              some row.host == shield.lanIp).keys
          some { s with
            calls := s.calls.insert id ⟨connectorId, c, u, lanIp, shield.lanIp, matched⟩ }
        else none
  | .write id =>
    (s.calls.lookup id).map fun r =>
      match (s.shields.lookup r.update.shieldId).bind r.updated with
      | some shield =>
        { s with
          shields := s.shields.insert r.update.shieldId shield
          resources := r.synced s.resources
          calls := s.calls.erase id }.observe
      | none => { s with calls := s.calls.erase id }
  | .abandon id => some { s with calls := s.calls.erase id }

/-! ### What is claimed, and when -/

def Action.edits : Action → Option ResourceId
  | .edit id _ => some id
  | _ => none

/-- Resources follow their shield's address, and no others are changed. -/
structure Tracks (s : State) (a : Action) (s' : State) : Prop where
  follow : ∀ id ∈ s'.tracked, ∀ row sh ip, s'.resources.lookup id = some row →
    row.shieldId = some sh → address s'.shields sh = some ip → ip ≠ "" → row.host = ip
  untouched : ∀ id ∉ s.tracked, a.edits ≠ some id →
    s'.resources.lookup id = s.resources.lookup id

/-- A report that brings another address is committed alone of those about the shield, and overlaps
with no edit that puts a resource at the shield's address; and a report has an address if a
resource is at the recorded one. -/
def Settled (s : State) : Action → Prop
  | .edit _ (some row) => ∀ sh ∈ row.shieldId, follows s.shields row = true →
      All s.calls fun r => r.update.shieldId = sh → r.lanIpChanged = false
  | .write id => ∀ r ∈ s.calls.lookup id,
      (r.lanIpChanged = true → All (s.calls.erase id) fun c =>
        c.update.shieldId ≠ r.update.shieldId) ∧
      (r.lanIp = "" → All s.resources fun row =>
        row.shieldId = some r.update.shieldId → follows s.shields row = false)
  | _ => True

instance (s : State) (a : Action) : Decidable (Settled s a) := by
  unfold Settled
  split <;> infer_instance

/-! ### The rows at their shield's address -/

variable {sh : ShieldId}

section Rows

variable {s : State} {shields shields' : Map ShieldId Shield} {row : Resource} {id : ResourceId}

lemma follows_iff : follows shields row = true ↔
    ∃ sh, row.shieldId = some sh ∧ address shields sh = some row.host := by
  rw [follows, beq_iff_eq, bind_eq_some_iff]

lemma follows_congr (h : ∀ sh, row.shieldId = some sh → address shields' sh = address shields sh) :
    follows shields' row = follows shields row := by
  cases hsh : row.shieldId with
  | none => simp [follows, hsh]
  | some sh => simp [follows, hsh, h sh hsh]

lemma mem_observe : id ∈ s.observe.tracked ↔
    id ∈ s.tracked ∨ ∃ row, s.resources.lookup id = some row ∧ follows s.shields row = true := by
  rw [State.observe, Finset.mem_union, List.mem_toFinset, mem_keys_retain]

lemma address_insert_of_ne {k shield} (h : k ≠ sh) :
    address (shields.insert sh shield) k = address shields k := by
  rw [address, lookup_insert_ne h, address]

lemma address_insert_self {shield} : address (shields.insert sh shield) sh = shield.lanIp := by
  rw [address, lookup_insert, bind_some]

end Rows

/-! ### The invariant -/

structure Inv (s : State) : Prop where
  tracked : ∀ id, id ∈ s.tracked ↔
    ∃ row, s.resources.lookup id = some row ∧ follows s.shields row = true
  known : ∀ i r, s.calls.lookup i = some r → (s.shields.lookup r.update.shieldId).isSome
  current : ∀ i r, s.calls.lookup i = some r → address s.shields r.update.shieldId = r.current
  matched : ∀ i r id row, s.calls.lookup i = some r → r.lanIpChanged = true → r.lanIp ≠ "" →
    s.resources.lookup id = some row → row.shieldId = some r.update.shieldId →
    follows s.shields row = true → id ∈ r.matched

lemma inv_start : Inv start where
  tracked := fun id => ⟨fun h => absurd h (Finset.notMem_empty id), by rintro ⟨row, h, -⟩; cases h⟩
  known := by rintro _ _ ⟨⟩
  current := by rintro _ _ ⟨⟩
  matched := by rintro _ _ _ _ ⟨⟩

section Steps

variable {s : State}

lemma Inv.endCall (h : Inv s) (id : CallId) : Inv { s with calls := s.calls.erase id } where
  tracked := h.tracked
  known := forall_lookup_erase h.known
  current := forall_lookup_erase h.current
  matched := fun i r k row hi => h.matched i r k row (lookup_erase_eq_some.1 hi).1

lemma Inv.insertShield (h : Inv s) {shield} (hl : shield.lanIp = address s.shields sh) :
    Inv { s with shields := s.shields.insert sh shield } := by
  have ha : ∀ k, address (s.shields.insert sh shield) k = address s.shields k := by
    intro k
    by_cases hk : k = sh
    · subst hk
      exact address_insert_self.trans hl
    · exact address_insert_of_ne hk
  have hfl : ∀ row, follows (s.shields.insert sh shield) row = follows s.shields row :=
    fun row => follows_congr fun k _ => ha k
  refine ⟨fun id => ?_, fun i r hi => ?_, fun i r hi => ?_,
    fun i r id row hi hc hip hr hsh hf => ?_⟩
  · rw [h.tracked]
    simp only [hfl]
  · have hkn := h.known i r hi
    rw [lookup_isSome] at hkn ⊢
    exact (mem_insert _).2 (.inr hkn)
  · rw [ha]
    exact h.current i r hi
  · rw [hfl] at hf
    exact h.matched i r id row hi hc hip hr hsh hf

lemma Inv.edit (h : Inv s) {id : ResourceId} (row : Option Resource)
    {rs' : Map ResourceId Resource} (hs : rs'.lookup id = row)
    (ho : ∀ k, k ≠ id → rs'.lookup k = s.resources.lookup k)
    (hj : ∀ r sh, row = some r → r.shieldId = some sh → follows s.shields r = true →
      All s.calls fun c => c.update.shieldId = sh → c.lanIpChanged = false) :
    Inv { s with resources := rs', tracked := s.tracked.erase id }.observe where
  __ := h
  tracked := fun k => by
    rw [mem_observe]
    refine or_iff_right_of_imp fun hk => ?_
    obtain ⟨hne, hk⟩ := Finset.mem_erase.1 hk
    obtain ⟨r, hr, hf⟩ := (h.tracked k).1 hk
    exact ⟨r, (ho k hne).trans hr, hf⟩
  matched := fun i c k r hi hc hip hr hsh hf => by
    by_cases hk : k = id
    · subst hk
      rw [hj r _ (hs.symm.trans hr) hsh hf i c hi rfl] at hc
      cases hc
    · exact h.matched i c k r hi hc hip ((ho k hk).symm.trans hr) hsh hf

lemma Inv.read (h : Inv s) {id : CallId} {shield : Shield} {c : Connector}
    {cid : ConnectorId} {u : ShieldStatusUpdate} {lanIp : String}
    {matched : List ResourceId} (hs : s.shields.lookup u.shieldId = some shield)
    (hm : ∀ k row, lanIp ≠ "" → s.resources.lookup k = some row →
      row.shieldId = some u.shieldId → some row.host = shield.lanIp → k ∈ matched) :
    Inv { s with
      calls := s.calls.insert id ⟨cid, c, u, lanIp, shield.lanIp, matched⟩ } where
  tracked := h.tracked
  known := forall_lookup_insert h.known (by rw [hs]; rfl)
  current := forall_lookup_insert h.current (by rw [address, hs]; rfl)
  matched := by
    intro i r k row hi hc hip hr hsh hf
    rcases lookup_insert_eq_some.1 hi with ⟨rfl, rfl⟩ | ⟨-, hi'⟩
    · refine hm k row hip hr hsh ?_
      obtain ⟨sh, hsh', hadd⟩ := follows_iff.1 hf
      cases hsh.symm.trans hsh'
      rw [← hadd, address, hs, bind_some]
    · exact h.matched i r k row hi' hc hip hr hsh hf

/-! #### The commit of a report -/

variable {id : CallId} {r : Report} {shield : Shield} {k : ResourceId} {row : Resource}

lemma lookup_synced {row' rs} (h : (r.synced rs).lookup k = some row') :
    ∃ row, rs.lookup k = some row ∧
      row' = if r.moves k row then { row with host := r.lanIp } else row := by
  rw [Report.synced, lookup_mapValues] at h
  obtain ⟨row, hr, heq⟩ := map_eq_some_iff.1 h
  exact ⟨row, hr, heq.symm⟩

lemma Inv.follows_of_moves (h : Inv s) (hr : s.calls.lookup id = some r)
    (hm : r.moves k row = true) :
    row.shieldId = some r.update.shieldId ∧ follows s.shields row = true := by
  simp only [Report.moves, Bool.and_eq_true, beq_iff_eq] at hm
  obtain ⟨⟨⟨-, hsh⟩, hh⟩, -⟩ := hm
  exact ⟨hsh, follows_iff.2 ⟨_, hsh, (h.current id r hr).trans hh.symm⟩⟩

lemma Inv.host_synced (h : Inv s) (hr : s.calls.lookup id = some r) (hip : r.lanIp ≠ "")
    (hrow : s.resources.lookup k = some row) (hsh : row.shieldId = some r.update.shieldId)
    (hf : follows s.shields row = true) :
    (if r.moves k row then { row with host := r.lanIp } else row).host = r.lanIp := by
  have hh : some row.host = r.current := by
    obtain ⟨sh, hsh', ha⟩ := follows_iff.1 hf
    cases hsh.symm.trans hsh'
    rw [← ha, h.current id r hr]
  cases hc : r.lanIpChanged with
  | true =>
    have hm := h.matched id r k row hr hc hip hrow hsh hf
    simp [Report.moves, hm, hsh, hh, hc]
  | false =>
    -- the recorded address is the reported one
    simp only [Report.lanIpChanged, nullIf, if_neg hip, bne_eq_false_iff_eq] at hc
    grind

lemma moves_of_ne (hsh : row.shieldId = some sh) (hne : sh ≠ r.update.shieldId) :
    r.moves k row = false := by
  simp [Report.moves, hsh, hne]

lemma Inv.follows_synced (h : Inv s) (hr : s.calls.lookup id = some r)
    (hl : shield.lanIp = nullIf r.lanIp)
    (hfr : r.lanIp = "" → All s.resources fun row =>
      row.shieldId = some r.update.shieldId → follows s.shields row = false)
    (hrow : s.resources.lookup k = some row) (hf : follows s.shields row = true) :
    follows (s.shields.insert r.update.shieldId shield)
      (if r.moves k row then { row with host := r.lanIp } else row) = true := by
  obtain ⟨sh, hsh, ha⟩ := follows_iff.1 hf
  by_cases hs : sh = r.update.shieldId
  · subst hs
    have hip : r.lanIp ≠ "" := by
      intro he
      rw [hfr he k row hrow hsh] at hf
      cases hf
    refine follows_iff.2 ⟨r.update.shieldId, by split <;> exact hsh, ?_⟩
    rw [h.host_synced hr hip hrow hsh hf, address_insert_self, hl, nullIf, if_neg hip]
  · rw [moves_of_ne hsh hs]
    exact follows_iff.2 ⟨sh, hsh, (address_insert_of_ne hs).trans ha⟩

lemma Inv.write_others (h : Inv s) (hr : s.calls.lookup id = some r)
    (hl : shield.lanIp = nullIf r.lanIp)
    (hal : r.lanIpChanged = true → All (s.calls.erase id) fun c =>
      c.update.shieldId ≠ r.update.shieldId) {i : CallId} {c : Report}
    (hi : (s.calls.erase id).lookup i = some c) :
    address (s.shields.insert r.update.shieldId shield) c.update.shieldId =
        address s.shields c.update.shieldId ∧
      ∀ k row, row.shieldId = some c.update.shieldId → r.moves k row = false := by
  by_cases hsh : c.update.shieldId = r.update.shieldId
  · -- it brings the address that is recorded
    have hc : r.lanIpChanged = false := Bool.eq_false_iff.2 fun ht => hal ht i c hi hsh
    refine ⟨?_, fun k row _ => by simp [Report.moves, hc]⟩
    rw [hsh, address_insert_self, hl, h.current id r hr]
    exact (bne_eq_false_iff_eq.1 hc).symm
  · exact ⟨address_insert_of_ne hsh, fun k row hk => moves_of_ne hk hsh⟩

lemma Inv.write (h : Inv s) (hr : s.calls.lookup id = some r)
    (hl : shield.lanIp = nullIf r.lanIp)
    (hal : r.lanIpChanged = true → All (s.calls.erase id) fun c =>
      c.update.shieldId ≠ r.update.shieldId)
    (hfr : r.lanIp = "" → All s.resources fun row =>
      row.shieldId = some r.update.shieldId → follows s.shields row = false) :
    Inv { s with
      shields := s.shields.insert r.update.shieldId shield
      resources := r.synced s.resources
      calls := s.calls.erase id }.observe where
  tracked := fun k => by
    rw [mem_observe]
    refine or_iff_right_of_imp fun hk => ?_
    obtain ⟨row, hrow, hf⟩ := (h.tracked k).1 hk
    refine ⟨_, ?_, h.follows_synced hr hl hfr hrow hf⟩
    rw [Report.synced, lookup_mapValues, hrow, map_some]
  known := fun i c hi => by
    have hkn := h.known i c (lookup_erase_eq_some.1 hi).1
    rw [lookup_isSome] at hkn ⊢
    exact (mem_insert _).2 (.inr hkn)
  current := fun i c hi =>
    (h.write_others hr hl hal hi).1.trans (h.current i c (lookup_erase_eq_some.1 hi).1)
  matched := fun i c k row' hi hc hip hr' hsh hf => by
    obtain ⟨ha, hm⟩ := h.write_others hr hl hal hi
    obtain ⟨row, hrow, rfl⟩ := lookup_synced hr'
    have hsh' : row.shieldId = some c.update.shieldId := by split at hsh <;> exact hsh
    rw [hm k row hsh'] at hf
    refine h.matched i c k row (lookup_erase_eq_some.1 hi).1 hc hip hrow hsh' ?_
    rw [← hf]
    refine (follows_congr fun sh hk => ?_).symm
    cases hsh'.symm.trans hk
    exact ha

lemma Inv.untouched (h : Inv s) (hr : s.calls.lookup id = some r) (hk : k ∉ s.tracked) :
    (r.synced s.resources).lookup k = s.resources.lookup k := by
  rw [Report.synced, lookup_mapValues]
  cases hrow : s.resources.lookup k with
  | none => rfl
  | some row =>
    rw [map_some, if_neg]
    intro hm
    exact hk ((h.tracked k).2 ⟨row, hrow, (h.follows_of_moves hr hm).2⟩)

end Steps

/-! ### The steps -/

lemma updated_lanIp {r : Report} {shield sh' : Shield} (h : r.updated shield = some sh') :
    sh'.lanIp = nullIf r.lanIp := by
  obtain ⟨st, -, -, ⟨⟩⟩ := bind_ite_eq_some.1 h
  rfl

lemma Inv.step {s s' : State} {a : Action} (h : Inv s) (hok : Settled s a)
    (hs : step s a = some s') :
    Inv s' ∧ ∀ id ∉ s.tracked, a.edits ≠ some id →
      s'.resources.lookup id = s.resources.lookup id := by
  cases a with
  | connector id c =>
    cases hs
    exact ⟨{ h with }, fun _ _ _ => rfl⟩
  | addShield sh row =>
    obtain ⟨hn, rfl⟩ := ite_some_none_eq_some.1 hs
    refine ⟨h.insertShield ?_, fun _ _ _ => rfl⟩
    rw [address, hn, bind_none]
  | setShield sh row =>
    obtain ⟨shield, hshl, rfl⟩ := map_eq_some_iff.1 hs
    refine ⟨h.insertShield ?_, fun _ _ _ => rfl⟩
    rw [address, hshl, bind_some]
  | edit id row =>
    cases hs
    have ho : ∀ k, k ≠ id → (match row with
        | some row => s.resources.insert id row
        | none => s.resources.erase id).lookup k = s.resources.lookup k := by
      intro k hk
      cases row with
      | none => exact lookup_erase_ne hk
      | some row => exact lookup_insert_ne hk
    refine ⟨h.edit row ?_ ho ?_, fun k _ hk => ho k fun heq => hk (heq ▸ rfl)⟩
    · cases row with
      | none => exact lookup_erase ..
      | some row => exact lookup_insert _
    · rintro r sh rfl hsh hf
      exact hok sh hsh hf
  | read id cid u lanIp =>
    obtain ⟨shield, hshl, hs⟩ := bind_eq_some_iff.1 hs
    obtain ⟨c, hc, -, ⟨⟩⟩ := bind_ite_eq_some.1 hs
    refine ⟨h.read hshl (fun k row hip hrow hsh hh => ?_), fun _ _ _ => rfl⟩
    exact mem_keys_retain.2 ⟨row, hrow, by simp [hsh, hh, nullIf, hip]⟩
  | write id =>
    obtain ⟨r, hr, rfl⟩ := map_eq_some_iff.1 hs
    split
    next sh' hu =>
      obtain ⟨shield, -, hu⟩ := bind_eq_some_iff.1 hu
      obtain ⟨hal, hfr⟩ := hok r hr
      exact ⟨h.write hr (updated_lanIp hu) hal hfr, fun k hk _ => h.untouched hr hk⟩
    next => exact ⟨h.endCall id, fun _ _ _ => rfl⟩
  | abandon id =>
    cases hs
    exact ⟨h.endCall id, fun _ _ _ => rfl⟩

/-! ### The result -/

/-- In every run in which a report that brings another address overlaps, at its commit, with no
other about the shield, nor with an edit that puts a resource at the shield's address, and no report
without an address is committed while a resource is at the recorded one: a resource that has been at
its shield's address since its last edit is at the recorded address, and no report changes any other
resource. -/
theorem resources_follow {acts : List Action} (h : Meets step Settled start acts) :
    Always step Tracks start acts := by
  refine always_of_meets (fun s a s' hi hok hs => (hi.step hok hs).1)
    (fun s a s' hi hok hs => ?_) inv_start h
  obtain ⟨hi', hu⟩ := hi.step hok hs
  refine ⟨fun id hid row sh ip hr hsh hip _ => ?_, hu⟩
  obtain ⟨row', hr', hf⟩ := (hi'.tracked id).1 hid
  cases hr.symm.trans hr'
  obtain ⟨sh', hsh', ha⟩ := follows_iff.1 hf
  cases hsh.symm.trans hsh'
  exact some.inj (ha.symm.trans hip)

def exampleResource : ResourceId := ⟨"r1", ResourceStore.plain_r1⟩

/-- A report through the connector `c`, start and commit. -/
def reportAddress (id : CallId) (lanIp : String) : List Action :=
  [Action.read id "c" ⟨"sh", "active", "1.0", 5⟩ lanIp, .write id]

/-- A shield at an active connector, with an address and a resource there. -/
def atAddress : List Action :=
  [Action.connector "c" ⟨"t", "n", "td", ⟨.active, false⟩⟩, .addShield "sh" (.new "t" "n" "c")] ++
    reportAddress 0 "192.168.1.10" ++
    [Action.edit exampleResource (some ⟨some "sh", "192.168.1.10"⟩)]

theorem resources_follow_moved :
    Meets step Settled start (atAddress ++ reportAddress 1 "192.168.1.20") ∧
      Always step Tracks start (atAddress ++ reportAddress 1 "192.168.1.20") ∧
      (exec step start (atAddress ++ reportAddress 1 "192.168.1.20")).any (fun s =>
        (s.resources.lookup exampleResource).any fun row => row.host == "192.168.1.20") = true := by
  have h : Meets step Settled start (atAddress ++ reportAddress 1 "192.168.1.20") := by
    decide +kernel
  exact ⟨h, resources_follow h, by decide +kernel⟩

/-- The shield reports no address, and then another one. -/
def addressLost : List Action :=
  atAddress ++ reportAddress 1 "" ++ reportAddress 2 "192.168.1.20"

/-- The resource has been at the shield's address and was not edited, and is left behind. -/
theorem resource_left_behind :
    ∃ s, exec step start addressLost = some s ∧ exampleResource ∈ s.tracked ∧
      s.resources.lookup exampleResource = some ⟨some "sh", "192.168.1.10"⟩ ∧
      address s.shields "sh" = some "192.168.1.20" := by
  decide +kernel

end Zecurity.LanAddress
