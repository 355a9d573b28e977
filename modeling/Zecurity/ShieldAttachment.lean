import Zecurity.Runs
import Zecurity.ShieldRows

/-!
Which connector a shield is attached to, as the controller has it
(`connector/src/agent_server.rs`, `get_shield_status_batch` and the Control stream of a shield;
`controller/internal/connector/control_stream.go`, `handleShieldStatus`).

A connector keeps the last health report of a shield after the shield's stream has ended, and
reports it as active while it is fresh. The controller writes what it is told, whichever connector
tells it. Each connector has its own clock, and each stream to the controller is a queue of reports.
-/

namespace Zecurity.ShieldAttachment

open FiniteMap List Option Runs ShieldRows
open ResourceStore (ShieldId)

abbrev StreamId := ℕ

structure ShieldEntry where
  status : String
  version : String
  lastSeenUnix : ℤ

def shieldStaleThresholdSecs : ℤ := 90

/-- A connector's Control stream to the controller. -/
structure ControlStream where
  connectorId : ConnectorId
  /-- the reports that the controller has still to apply, oldest first -/
  queue : List ShieldStatusUpdate

/-- A report that the controller has applied. -/
structure Applied where
  shieldId : ShieldId
  connectorId : ConnectorId
  lastSeenUnix : ℤ
  deriving DecidableEq

structure State where
  connectors : Map ConnectorId Connector
  shields : Map ShieldId ShieldRow
  attached : Finset (ConnectorId × ShieldId)
  health : Map (ConnectorId × ShieldId) ShieldEntry
  streams : Map StreamId ControlStream
  applied : List Applied
  /-- for each shield, where and when its last health report was recorded -/
  latest : Map ShieldId (ConnectorId × ℤ)

def start (connectors : Map ConnectorId Connector) (shields : Map ShieldId ShieldRow) : State where
  connectors := connectors
  shields := shields
  attached := ∅
  health := ∅
  streams := ∅
  applied := []
  latest := ∅

inductive Action
  | attach (c : ConnectorId) (sh : ShieldId)
  | detach (c : ConnectorId) (sh : ShieldId)
  /-- a health report of the shield, at the connector's time -/
  | report (c : ConnectorId) (sh : ShieldId) (version : String) (now : ℤ)
  | forget (c : ConnectorId) (sh : ShieldId)
  | openStream (st : StreamId) (c : ConnectorId)
  /-- a health tick, with the batch in the order that the map gives it -/
  | tick (st : StreamId) (now : ℤ) (batch : List ShieldStatusUpdate)
  | apply (st : StreamId)
  | closeStream (st : StreamId)
  | connectors (connectors : Map ConnectorId Connector)

def getShieldStatusBatch (health : Map (ConnectorId × ShieldId) ShieldEntry) (c : ConnectorId)
    (now : ℤ) : List ShieldStatusUpdate :=
  (retain health fun k e => k.1 == c && decide (now - shieldStaleThresholdSecs ≤ e.lastSeenUnix)
    ).entries.map fun e => ⟨e.1.2, e.2.status, e.2.version, e.2.lastSeenUnix⟩

/-- The controller takes the first report of a stream. -/
def State.take (s : State) (st : StreamId) : Option (ConnectorId × ShieldStatusUpdate × State) :=
  (s.streams.lookup st).bind fun stream =>
    match stream.queue with
    | [] => none
    | u :: rest =>
      some (stream.connectorId, u,
        { s with streams := s.streams.insert st { stream with queue := rest } })

def step (s : State) : Action → Option State
  | .attach c sh => some { s with attached := insert (c, sh) s.attached }
  | .detach c sh => some { s with attached := s.attached.erase (c, sh) }
  | .report c sh version now =>
    if (c, sh) ∈ s.attached then
      some { s with
        health := s.health.insert (c, sh) ⟨"active", version, now⟩
        latest := s.latest.insert sh (c, now) }
    else none
  | .forget c sh => some { s with health := s.health.erase (c, sh) }
  | .openStream st c =>
    if s.streams.lookup st = none then some { s with streams := s.streams.insert st ⟨c, []⟩ }
    else none
  | .tick st now batch =>
    (s.streams.lookup st).bind fun stream =>
      if batch.Perm (getShieldStatusBatch s.health stream.connectorId now) then
        some { s with
          streams := s.streams.insert st { stream with queue := stream.queue ++ batch } }
      else none
  | .apply st =>
    (s.take st).map fun r =>
      match updateShieldHealth s.connectors s.shields r.1 r.2.1 with
      | none => r.2.2
      | some shields =>
        { r.2.2 with
          shields := shields
          applied := ⟨r.2.1.shieldId, r.1, r.2.1.lastSeenUnix⟩ :: s.applied }
  | .closeStream st => some { s with streams := s.streams.erase st }
  | .connectors connectors => some { s with connectors := connectors }

/-! ### Not handed back -/

/-- The report that a step applies. -/
def Action.applies (s : State) : Action → Option ShieldStatusUpdate
  | .apply st => (s.take st).map fun r => r.2.1
  | _ => none

/-- A report with an earlier last seen than one that was applied neither sets another connector
nor moves the heartbeat back. -/
def NotHandedBack (s : State) (a : Action) (s' : State) : Prop :=
  ∀ u ∈ a.applies s, ∀ p ∈ s.applied, p.shieldId = u.shieldId → u.lastSeenUnix < p.lastSeenUnix →
    ∀ row row', s.shields.lookup u.shieldId = some row → s'.shields.lookup u.shieldId = some row' →
      row'.connectorId = row.connectorId ∧
        ∀ t ∈ row.lastHeartbeatAt, ∃ t' ∈ row'.lastHeartbeatAt, t ≤ t'

/-! ### The condition -/

/-- The `WHERE` of `UpdateShieldHealth` has no row for the shield and this connector: one of the two
is not there, the connector is not active or in another network, or the shield is revoked. -/
def State.refuses (s : State) (c : ConnectorId) (sh : ShieldId) : Bool :=
  !(s.shields.lookup sh).any fun row =>
    (s.connectors.lookup c).any fun conn => healthMatches conn row

/-- Every report of the shield that is under way on another stream will be refused. -/
def State.OnlyOn (s : State) (st : StreamId) (sh : ShieldId) : Prop :=
  ∀ e ∈ s.streams.entries, e.1 = st ∨ s.refuses e.2.connectorId sh = true ∨
    ∀ u ∈ e.2.queue, u.shieldId ≠ sh

/-- Health is recorded in the order of time. When a connector ticks, each of its entries is over
90 seconds old, or of a shield for which it is refused, or of one that reported to it last and has
no other report under way. A connector is not accepted again while a report of it is under way. -/
def Orderly (s : State) : Action → Prop
  | .report _ sh _ now => ∀ l ∈ s.latest.lookup sh, l.2 ≤ now
  | .tick st now _ => ∀ stream ∈ s.streams.lookup st, ∀ e ∈ s.health.entries,
      e.1.1 = stream.connectorId → e.2.lastSeenUnix + 90 < now ∨ s.refuses e.1.1 e.1.2 = true ∨
        (s.latest.lookup e.1.2).map Prod.fst = some e.1.1 ∧ s.OnlyOn st e.1.2
  | .connectors connectors => ∀ e ∈ s.streams.entries, ∀ u ∈ e.2.queue,
      s.refuses e.2.connectorId u.shieldId = true →
        State.refuses { s with connectors := connectors } e.2.connectorId u.shieldId = true
  | _ => True

instance (s : State) (a : Action) : Decidable (Orderly s a) := by
  cases a <;> unfold Orderly <;> (try unfold State.OnlyOn) <;> infer_instance

/-! ### Reports under way -/

variable {st : StreamId} {c : ConnectorId} {sh : ShieldId} {u : ShieldStatusUpdate} {s s' : State}
  {stream : ControlStream} {now : ℤ}

lemma take_eq_some (h : s.take st = some (c, u, s')) :
    ∃ rest, s.streams.lookup st = some ⟨c, u :: rest⟩ ∧
      { s with streams := s.streams.insert st ⟨c, rest⟩ } = s' := by
  obtain ⟨⟨cid, queue⟩, hs, hq⟩ := bind_eq_some_iff.1 h
  cases queue with
  | nil => cases hq
  | cons v rest => grind

lemma mem_getShieldStatusBatch {health} (h : u ∈ getShieldStatusBatch health c now) :
    ∃ e, health.lookup (c, u.shieldId) = some e ∧ u.lastSeenUnix = e.lastSeenUnix ∧
      now ≤ e.lastSeenUnix + 90 := by
  obtain ⟨⟨⟨c', sh⟩, e⟩, hm, rfl⟩ := mem_map.1 h
  obtain ⟨he, hf⟩ := lookup_retain_eq_some.1 (AList.mem_lookup_iff.2 hm)
  rw [Bool.and_eq_true, beq_iff_eq, decide_eq_true_eq, shieldStaleThresholdSecs] at hf
  obtain ⟨rfl, hle⟩ := hf
  exact ⟨e, he, rfl, by omega⟩

lemma refuses_eq_false : s.refuses c sh = false ↔ ∃ row conn, s.shields.lookup sh = some row ∧
    s.connectors.lookup c = some conn ∧ healthMatches conn row = true := by
  simp [State.refuses, Option.any_eq_true]

lemma updateShieldHealth_of_refuses (h : s.refuses c u.shieldId = true) :
    updateShieldHealth s.connectors s.shields c u = none := by
  rw [Option.eq_none_iff_forall_ne_some]
  intro shields hu
  obtain ⟨row, conn, status, hr, hc, -, hm, -⟩ := updateShieldHealth_eq_some.1 hu
  rw [refuses_eq_false.2 ⟨row, conn, hr, hc, hm⟩] at h
  cases h

variable {a : Action} {shields : Map ShieldId ShieldRow}

lemma refuses_of_applied {d} (h : s'.refuses d sh = false)
    (hu : updateShieldHealth s.connectors s.shields c u = some shields)
    (hs : s'.shields = shields) (hc : s'.connectors = s.connectors) : s.refuses d sh = false := by
  obtain ⟨row, conn, status, hr, -, -, hm, rfl⟩ := updateShieldHealth_eq_some.1 hu
  obtain ⟨row', conn', hr', hd, hm'⟩ := refuses_eq_false.1 h
  rw [hc] at hd
  rw [hs] at hr'
  rcases lookup_insert_eq_some.1 hr' with ⟨rfl, rfl⟩ | ⟨-, hr'⟩
  · refine refuses_eq_false.2 ⟨row, conn', hr, hd, ?_⟩
    simp only [healthMatches, ShieldRow.withHealth, Bool.and_eq_true] at hm hm' ⊢
    exact ⟨hm'.1, hm.2⟩
  · exact refuses_eq_false.2 ⟨row', conn', hr', hd, hm'⟩

/-- The report is under way, and would be accepted now. -/
structure Live (s : State) (st : StreamId) (u : ShieldStatusUpdate) (stream : ControlStream) :
    Prop where
  lookup : s.streams.lookup st = some stream
  mem : u ∈ stream.queue
  accepted : s.refuses stream.connectorId u.shieldId = false

/-- In a queue the reports of a shield are in the order of time, if they would be accepted. -/
def InOrder (s : State) (stream : ControlStream) : Prop :=
  stream.queue.Pairwise fun u u' => s.refuses stream.connectorId u.shieldId = false →
    u.shieldId = u'.shieldId → u.lastSeenUnix ≤ u'.lastSeenUnix

/-- The reports in the queues and the ones applied, by the newest of each shield. -/
structure Inv (s : State) : Prop where
  /-- what is under way is not earlier than what was applied, and not later than the newest -/
  queued : ∀ st u stream, Live s st u stream →
    (∀ p ∈ s.applied, p.shieldId = u.shieldId → p.lastSeenUnix ≤ u.lastSeenUnix) ∧
      ∃ l, s.latest.lookup u.shieldId = some l ∧ u.lastSeenUnix ≤ l.2
  sorted : ∀ st stream, s.streams.lookup st = some stream → InOrder s stream
  single : ∀ st st' u u' stream stream', Live s st u stream → Live s st' u' stream' →
    u.shieldId = u'.shieldId → st = st'
  seen : ∀ p ∈ s.applied, ∃ l, s.latest.lookup p.shieldId = some l ∧ p.lastSeenUnix ≤ l.2
  newest : ∀ c sh e l, s.health.lookup (c, sh) = some e → s.latest.lookup sh = some l →
    l.1 = c → e.lastSeenUnix = l.2

lemma inv_start (cs : Map ConnectorId Connector) (shs : Map ShieldId ShieldRow) :
    Inv (start cs shs) where
  queued := fun _ _ _ h => nomatch h.lookup
  sorted := nofun
  single := fun _ _ _ _ _ _ h => nomatch h.lookup
  seen := nofun
  newest := nofun

section Steps

variable (hinv : Inv s)
include hinv

lemma Inv.of_fewer (hl : ∀ st u stream', Live s' st u stream' → ∃ stream, Live s st u stream)
    (hs : ∀ st stream, s'.streams.lookup st = some stream → InOrder s' stream)
    (hap : s'.applied = s.applied) (hla : s'.latest = s.latest) (hh : s'.health = s.health) :
    Inv s' where
  queued := by
    intro st u stream' h
    obtain ⟨stream, h⟩ := hl st u stream' h
    rw [hap, hla]
    exact hinv.queued st u stream h
  sorted := hs
  single := by
    intro st st' u u' _ _ h h'
    obtain ⟨stream, h⟩ := hl st u _ h
    obtain ⟨stream', h'⟩ := hl st' u' _ h'
    exact hinv.single st st' u u' stream stream' h h'
  seen := by
    rw [hap, hla]
    exact hinv.seen
  newest := by
    rw [hla, hh]
    exact hinv.newest

lemma inv_tick {batch} (hst : s.streams.lookup st = some stream)
    (hb : batch.Perm (getShieldStatusBatch s.health stream.connectorId now))
    (hok : Orderly s (.tick st now batch)) :
    Inv { s with
      streams := s.streams.insert st { stream with queue := stream.queue ++ batch } } := by
  -- what is sent and would be accepted is the newest report of its shield
  have hn : ∀ u ∈ batch, s.refuses stream.connectorId u.shieldId = false →
      (∃ l, s.latest.lookup u.shieldId = some l ∧ u.lastSeenUnix = l.2) ∧
        s.OnlyOn st u.shieldId := by
    intro u hu hr
    obtain ⟨e, he, hsn, hle⟩ := mem_getShieldStatusBatch (hb.subset hu)
    rcases hok stream hst ⟨(stream.connectorId, u.shieldId), e⟩ (AList.mem_lookup_iff.1 he) rfl
      with hst | hrf | ⟨hla, ho⟩
    · dsimp only at hst
      omega
    · cases hrf.symm.trans hr
    · obtain ⟨l, hl, hc⟩ := map_eq_some_iff.1 hla
      exact ⟨⟨l, hl, hsn.trans (hinv.newest _ _ e l he hl hc)⟩, ho⟩
  have ho : ∀ u ∈ batch, s.refuses stream.connectorId u.shieldId = false →
      ∀ st' u' stream', Live s st' u' stream' → u'.shieldId = u.shieldId → st' = st := by
    intro u hu hr st' u' stream' hl hsh
    rcases (hn u hu hr).2 ⟨st', stream'⟩ (AList.mem_lookup_iff.1 hl.lookup) with h | h | h
    · exact h
    · rw [← hsh] at h
      cases h.symm.trans hl.accepted
    · exact absurd hsh (h u' hl.mem)
  have hls : ∀ u ∈ batch, s.refuses stream.connectorId u.shieldId = false →
      ∀ u' ∈ stream.queue ++ batch, u'.shieldId = u.shieldId →
        u'.lastSeenUnix ≤ u.lastSeenUnix := by
    intro u hu hr u' hu' hsh
    obtain ⟨l, hl, heq⟩ := (hn u hu hr).1
    rw [← hsh] at hr hl
    rcases mem_append.1 hu' with hold | hb'
    · obtain ⟨-, l', hl', hle⟩ := hinv.queued st u' stream ⟨hst, hold, hr⟩
      cases hl.symm.trans hl'
      exact hle.trans_eq heq.symm
    · obtain ⟨l', hl', heq'⟩ := (hn u' hb' hr).1
      cases hl.symm.trans hl'
      exact (heq'.trans heq.symm).le
  -- what is under way afterwards is of the batch, or was under way before
  have hat : ∀ i u si, Live { s with
      streams := s.streams.insert st { stream with queue := stream.queue ++ batch } } i u si →
      (i = st ∧ u ∈ batch ∧ s.refuses stream.connectorId u.shieldId = false) ∨
        ∃ si', Live s i u si' := by
    rintro i u si ⟨hi, hu, hr⟩
    rcases lookup_insert_eq_some.1 hi with ⟨rfl, rfl⟩ | ⟨-, hi⟩
    · rcases mem_append.1 hu with hu | hu
      · exact .inr ⟨stream, hst, hu, hr⟩
      · exact .inl ⟨rfl, hu, hr⟩
    · exact .inr ⟨si, hi, hu, hr⟩
  refine ⟨fun i u si h => ?_, fun i si hi => ?_, fun i j u u' si sj h h' hsh => ?_, hinv.seen,
    hinv.newest⟩
  · rcases hat i u si h with ⟨-, hu, hr⟩ | ⟨si', h⟩
    · obtain ⟨l, hl, heq⟩ := (hn u hu hr).1
      refine ⟨fun p hp hsh => ?_, l, hl, heq.le⟩
      obtain ⟨l', hl', hle⟩ := hinv.seen p hp
      rw [hsh] at hl'
      cases hl.symm.trans hl'
      exact hle.trans_eq heq.symm
    · exact hinv.queued i u si' h
  · rcases lookup_insert_eq_some.1 hi with ⟨rfl, rfl⟩ | ⟨-, hi⟩
    · refine pairwise_append.2 ⟨hinv.sorted i stream hst, ?_, fun u hu u' hu' hr hsh => ?_⟩
      · exact pairwise_of_forall_mem_list fun u hu u' hu' hr hsh =>
          hls u' hu' (hsh ▸ hr) u (mem_append_right _ hu) hsh
      · exact hls u' hu' (hsh ▸ hr) u (mem_append_left _ hu) hsh
    · exact hinv.sorted i si hi
  · rcases hat i u si h with ⟨rfl, hu, hr⟩ | ⟨si', hi⟩
    · rcases hat j u' sj h' with ⟨rfl, -⟩ | ⟨sj', hj⟩
      · rfl
      · exact (ho u hu hr j u' sj' hj hsh.symm).symm
    · rcases hat j u' sj h' with ⟨rfl, hu', hr'⟩ | ⟨sj', hj⟩
      · exact ho u' hu' hr' i u si' hi hsh
      · exact hinv.single i j u u' si' sj' hi hj hsh

lemma inv_shorter {queue : List ShieldStatusUpdate}
    (hq : ∀ u ∈ queue, ∃ stream, s.streams.lookup st = some stream ∧ stream.connectorId = c ∧
      u ∈ stream.queue)
    (hs : InOrder s ⟨c, queue⟩) : Inv { s with streams := s.streams.insert st ⟨c, queue⟩ } := by
  refine hinv.of_fewer ?_ (forall_lookup_insert hinv.sorted hs) rfl rfl rfl
  rintro i u si ⟨hi, hu, hr⟩
  rcases lookup_insert_eq_some.1 hi with ⟨rfl, rfl⟩ | ⟨-, hi⟩
  · obtain ⟨stream, hl, rfl, hm⟩ := hq u hu
    exact ⟨stream, hl, hm, hr⟩
  · exact ⟨si, hi, hu, hr⟩

lemma inv_take (h : s.take st = some (c, u, s')) : Inv s' := by
  obtain ⟨rest, hst, rfl⟩ := take_eq_some h
  exact inv_shorter hinv (fun v hv => ⟨_, hst, rfl, mem_cons_of_mem _ hv⟩)
    (pairwise_cons.1 (hinv.sorted st _ hst)).2

lemma inv_applied (h : s.take st = some (c, u, s'))
    (hu : updateShieldHealth s.connectors s.shields c u = some shields) :
    Inv { s' with
      shields := shields
      applied := ⟨u.shieldId, c, u.lastSeenUnix⟩ :: s.applied } := by
  obtain ⟨row, conn, status, hrow, hc, -, hm, -⟩ := updateShieldHealth_eq_some.1 hu
  have hr := inv_take hinv h
  obtain ⟨rest, hst, rfl⟩ := take_eq_some h
  have hl : Live s st u ⟨c, u :: rest⟩ :=
    ⟨hst, mem_cons_self, refuses_eq_false.2 ⟨row, conn, hrow, hc, hm⟩⟩
  have hlv : ∀ i v si, Live { s with
      streams := s.streams.insert st ⟨c, rest⟩
      shields := shields
      applied := ⟨u.shieldId, c, u.lastSeenUnix⟩ :: s.applied } i v si →
      Live { s with streams := s.streams.insert st ⟨c, rest⟩ } i v si :=
    fun i v si ⟨hi, hv, ha⟩ => ⟨hi, hv, refuses_of_applied ha hu rfl rfl⟩
  refine ⟨fun i v si hv => ?_, fun i si hi => ?_, fun i j v v' si sj hv hv' =>
    hr.single i j v v' si sj (hlv _ _ _ hv) (hlv _ _ _ hv'), fun p hp => ?_, hr.newest⟩
  · have hv := hlv i v si hv
    obtain ⟨hap, hla⟩ := hr.queued i v si hv
    refine ⟨fun p hp hsh => ?_, hla⟩
    rcases mem_cons.1 hp with rfl | hp
    · obtain ⟨hi, hm, ha⟩ := hv
      rcases lookup_insert_eq_some.1 hi with ⟨rfl, rfl⟩ | ⟨hne, hi⟩
      · exact (pairwise_cons.1 (hinv.sorted i _ hst)).1 v hm hl.accepted hsh
      · exact absurd (hinv.single i st v u si _ ⟨hi, hm, ha⟩ hl hsh.symm) hne
    · exact hap p hp hsh
  · refine List.Pairwise.imp ?_ (hr.sorted i si hi)
    exact fun hle ha => hle (refuses_of_applied ha hu rfl rfl)
  · rcases mem_cons.1 hp with rfl | hp
    · exact (hinv.queued st u _ hl).2
    · exact hinv.seen p hp

lemma inv_report {ver} (hok : Orderly s (.report c sh ver now)) :
    Inv { s with
      health := s.health.insert (c, sh) ⟨"active", ver, now⟩
      latest := s.latest.insert sh (c, now) } := by
  -- the newest report of a shield gets newer
  have hlt : ∀ k l, s.latest.lookup k = some l →
      ∃ l', (s.latest.insert sh (c, now)).lookup k = some l' ∧ l.2 ≤ l'.2 := by
    intro k l hl
    by_cases hk : k = sh
    · subst hk
      exact ⟨(c, now), AList.lookup_insert _, hok l hl⟩
    · exact ⟨l, by rwa [AList.lookup_insert_ne hk], le_rfl⟩
  refine ⟨fun st u stream hl => ?_, hinv.sorted, fun i j u u' si sj h h' =>
    hinv.single i j u u' si sj ⟨h.1, h.2, h.3⟩ ⟨h'.1, h'.2, h'.3⟩, fun p hp => ?_,
    fun c' k e l he hl hc => ?_⟩
  · obtain ⟨ha, l, hla, hle⟩ := hinv.queued st u stream ⟨hl.1, hl.2, hl.3⟩
    obtain ⟨l', hl', hle'⟩ := hlt _ l hla
    exact ⟨ha, l', hl', hle.trans hle'⟩
  · obtain ⟨l, hl, hle⟩ := hinv.seen p hp
    obtain ⟨l', hl', hle'⟩ := hlt _ l hl
    exact ⟨l', hl', hle.trans hle'⟩
  · rcases lookup_insert_eq_some.1 hl with ⟨rfl, rfl⟩ | ⟨hk, hl⟩
    · obtain rfl : c = c' := hc
      have he' := (AList.lookup_insert s.health).symm.trans he
      cases he'
      rfl
    · rcases lookup_insert_eq_some.1 he with ⟨heq, -⟩ | ⟨-, he⟩
      · exact absurd (Prod.mk.inj heq).2 hk
      · exact hinv.newest c' k e l he hl hc

lemma inv_connectors {connectors} (hok : Orderly s (.connectors connectors)) :
    Inv { s with connectors := connectors } := by
  have hr : ∀ st stream, s.streams.lookup st = some stream → ∀ u ∈ stream.queue,
      State.refuses { s with connectors := connectors } stream.connectorId u.shieldId = false →
        s.refuses stream.connectorId u.shieldId = false := by
    intro st stream hst u hu h
    rw [← Bool.not_eq_true] at h ⊢
    exact fun ht => h (hok ⟨st, stream⟩ (AList.mem_lookup_iff.1 hst) u hu ht)
  refine hinv.of_fewer (fun st u stream h => ⟨stream, h.1, h.2, ?_⟩) (fun st stream hst => ?_) rfl
    rfl rfl
  · exact hr st stream h.lookup u h.mem h.accepted
  · exact (hinv.sorted st stream hst).imp_of_mem fun hu _ hle ha => hle (hr st stream hst _ hu ha)

lemma inv_step (hok : Orderly s a) (h : step s a = some s') : Inv s' := by
  cases a with
  | attach | detach =>
    cases h
    exact hinv.of_fewer (fun st u stream h => ⟨stream, h.1, h.2, h.3⟩) hinv.sorted rfl rfl rfl
  | report c sh ver now =>
    obtain ⟨-, rfl⟩ := ite_some_none_eq_some.1 h
    exact inv_report hinv hok
  | forget c sh =>
    cases h
    exact ⟨fun st u stream h => hinv.queued st u stream ⟨h.1, h.2, h.3⟩, hinv.sorted,
      fun i j u u' si sj h h' => hinv.single i j u u' si sj ⟨h.1, h.2, h.3⟩ ⟨h'.1, h'.2, h'.3⟩,
      hinv.seen, fun c' sh' e l he => hinv.newest c' sh' e l (lookup_erase_eq_some.1 he).1⟩
  | openStream st c =>
    obtain ⟨-, rfl⟩ := ite_some_none_eq_some.1 h
    exact inv_shorter hinv (by simp) List.Pairwise.nil
  | tick st now batch =>
    obtain ⟨stream, hst, hb, ⟨⟩⟩ := bind_ite_eq_some.1 h
    exact inv_tick hinv hst hb hok
  | apply st =>
    obtain ⟨⟨c, u, s1⟩, ht, rfl⟩ := map_eq_some_iff.1 h
    split
    · exact inv_take hinv ht
    · next shields hu => exact inv_applied hinv ht hu
  | closeStream st =>
    cases h
    exact hinv.of_fewer (fun i u si h => ⟨si, (lookup_erase_eq_some.1 h.1).1, h.2, h.3⟩)
      (forall_lookup_erase hinv.sorted) rfl rfl rfl
  | connectors connectors =>
    cases h
    exact inv_connectors hinv hok

/-- A report under way that is earlier than one applied is refused. -/
lemma notHandedBack_of_inv (h : step s a = some s') : NotHandedBack s a s' := by
  intro u hu p hp hsh hlt row row' hrow hrow'
  cases a with
  | apply st =>
    obtain ⟨⟨c, u', s1⟩, ht, rfl⟩ := map_eq_some_iff.1 hu
    obtain ⟨rest, hst, rfl⟩ := take_eq_some ht
    have hrf : s.refuses c u'.shieldId = true := by
      by_contra hacc
      rw [Bool.not_eq_true] at hacc
      have hle := (hinv.queued st u' _ ⟨hst, mem_cons_self, hacc⟩).1 p hp hsh
      exact absurd hlt hle.not_gt
    obtain ⟨r, hr, rfl⟩ := map_eq_some_iff.1 h
    cases ht.symm.trans hr
    rw [updateShieldHealth_of_refuses hrf] at hrow'
    cases hrow.symm.trans hrow'
    exact ⟨rfl, fun t ht => ⟨t, ht, le_rfl⟩⟩
  | _ => cases hu

end Steps

/-- When a connector that a shield has left ticks only once its entry is stale or while it is
refused, and no acceptable report is overtaken on another stream, a report with an earlier last seen
is not taken over: a shield is not handed back to a connector that it left. -/
theorem notHandedBack_of_orderly (connectors : Map ConnectorId Connector)
    (shields : Map ShieldId ShieldRow) (acts : List Action)
    (hok : Meets step Orderly (start connectors shields) acts) :
    Always step NotHandedBack (start connectors shields) acts :=
  always_of_meets (fun _ _ _ hinv hok h => inv_step hinv hok h)
    (fun _ _ _ hinv _ h => notHandedBack_of_inv hinv h) (inv_start connectors shields) hok

/-! ### A shield that moves -/

def connectorsWith (first : ConnectorRow.Status) : Map ConnectorId Connector :=
  ((∅ : Map ConnectorId Connector).insert "a" ⟨"w", "n", "w.example", ⟨first, false⟩⟩).insert "b"
    ⟨"w", "n", "w.example", ⟨.active, false⟩⟩

def twoConnectors : Map ConnectorId Connector := connectorsWith .active

/-- A shield that was enrolled at the first. -/
def oneShield : Map ShieldId ShieldRow :=
  (∅ : Map ShieldId ShieldRow).insert "s" { ShieldRow.new "w" "n" "a" with status := .active }

def seenAt (t : ℤ) : ShieldStatusUpdate := ⟨"s", "active", "1", t⟩

/-- The shield reports to the first connector, leaves it and reports to the second. -/
def moves : List Action :=
  [.openStream 0 "a", .openStream 1 "b", .attach "a" "s", .report "a" "s" "1" 10,
    .tick 0 15 [seenAt 10], .apply 0, .detach "a" "s", .attach "b" "s", .report "b" "s" "1" 20,
    .tick 1 25 [seenAt 20], .apply 1]

/-- The first connector's next report comes while it counts as disconnected, and is refused. By its
next tick the entry is stale. -/
def settles : List Action :=
  moves ++ [Action.connectors (connectorsWith .disconnected), .tick 0 30 [seenAt 10], .apply 0,
    .connectors twoConnectors, .tick 0 200 [], .report "b" "s" "1" 210, .tick 1 211 [seenAt 210],
    .apply 1]

theorem notHandedBack_settles :
    Meets step Orderly (start twoConnectors oneShield) settles ∧
      Always step NotHandedBack (start twoConnectors oneShield) settles ∧
      (exec step (start twoConnectors oneShield) settles).map (fun s =>
        (s.shields.lookup "s").map fun row => (row.connectorId, row.lastHeartbeatAt)) =
          some (some ("b", some 210)) := by
  have hm : Meets step Orderly (start twoConnectors oneShield) settles := by decide +kernel
  exact ⟨hm, notHandedBack_of_orderly _ _ _ hm, by decide +kernel⟩

/-- The first connector's next tick comes while its entry is fresh. -/
def returns : List Action := moves ++ [Action.tick 0 30 [seenAt 10]]

/-- The controller hands the shield back to the connector that it left. -/
theorem handed_back_to_former_connector :
    ∃ u u' row row', exec step (start twoConnectors oneShield) returns = some u ∧
      step u (.apply 0) = some u' ∧ ⟨"s", "b", 20⟩ ∈ u.applied ∧
      Action.applies u (.apply 0) = some (seenAt 10) ∧
      u.shields.lookup "s" = some row ∧ row.connectorId = "b" ∧ row.lastHeartbeatAt = some 20 ∧
      u'.shields.lookup "s" = some row' ∧ row'.connectorId = "a" ∧
      row'.lastHeartbeatAt = some 10 ∧ ¬ NotHandedBack u (.apply 0) u' := by
  obtain ⟨u, hu, u', hu', row, hr, row', hr', ha, hap, hc, ht, hc', ht'⟩ :
      ∃ u, exec step (start twoConnectors oneShield) returns = some u ∧
        ∃ u', step u (.apply 0) = some u' ∧ ∃ row, u.shields.lookup "s" = some row ∧
        ∃ row', u'.shields.lookup "s" = some row' ∧ ⟨"s", "b", 20⟩ ∈ u.applied ∧
          Action.applies u (.apply 0) = some (seenAt 10) ∧ row.connectorId = "b" ∧
          row.lastHeartbeatAt = some 20 ∧ row'.connectorId = "a" ∧
          row'.lastHeartbeatAt = some 10 := by
    decide +kernel
  refine ⟨u, u', row, row', hu, hu', ha, hap, hr, hc, ht, hr', hc', ht', fun hn => ?_⟩
  have hs := (hn _ hap _ ha rfl (by decide) row row' hr hr').1
  rw [hc, hc'] at hs
  exact absurd hs (by decide)

end Zecurity.ShieldAttachment
