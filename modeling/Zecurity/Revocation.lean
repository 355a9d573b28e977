import Zecurity.ControlStream

/-!
What a revocation leaves possible on the connector's Control streams.

An `AuthorizationAck` needs a health report whose guarded `UPDATE` returned a row. A report that got
past it before the revocation is on a stream that is registered as live, so `SignalRevoked` finds
the stream and marks it, and the ack is refused under `authMu`.
-/

namespace Zecurity.ControlStream

open ConnectorRow Function List Option

/-- The acks enqueued on the stream, oldest first. -/
def Stream.acks (t : Stream) : List ℕ :=
  t.enqueued.filterMap fun msg =>
    match msg with
    | .authorizationAck seq => some seq
    | _ => none

/-- `ConnectorRevoked` is written at most once, and nothing is written after it. -/
def RevokedLast (written : List Msg) : Prop :=
  ∀ before after, written = before ++ Msg.connectorRevoked :: after →
    .connectorRevoked ∉ before ∧ after = []

/-- The stream is registered and not retired. -/
inductive StreamPhase.Registered : StreamPhase → Prop
  | serving (h : HealthPhase) : Registered (.serving h)
  | closing (rej : Option AuthzRejection) : Registered (.closing rej)

/-- A health report is past the guarded `UPDATE`. -/
inductive StreamPhase.Authorized : StreamPhase → Prop
  | authorized (seq : ℕ) : Authorized (.serving (.authorized seq))
  | pushed (seq : ℕ) : Authorized (.serving (.pushed seq))

variable {msg : Msg} {phase : StreamPhase} {id : StreamId} {mu : Option Holder} {call : Call}

lemma StreamPhase.Authorized.registered {p : StreamPhase} (h : p.Authorized) : p.Registered := by
  cases h <;> exact .serving _

/-! ### The writer -/

/-- Only the terminal mailbox carries `ConnectorRevoked`, and the writer stops after it. -/
structure Stream.WriterOk (t : Stream) : Prop where
  outbound : .connectorRevoked ∉ t.outbound
  sending : t.writer ≠ .sending .connectorRevoked
  stopped : .connectorRevoked ∈ t.written → t.writer = .stopped
  last : RevokedLast t.written

lemma revokedLast_concat {l} (h : .connectorRevoked ∉ l) (msg : Msg) :
    RevokedLast (l ++ [msg]) := by
  intro before after heq
  rcases eq_nil_or_concat after with rfl | ⟨after', last, rfl⟩
  · obtain ⟨rfl, -⟩ := append_inj' heq rfl
    exact ⟨h, rfl⟩
  · -- otherwise the message would stand inside `l`
    rw [concat_eq_append, ← cons_append, ← append_assoc] at heq
    obtain ⟨rfl, -⟩ := append_inj' heq rfl
    exact absurd (mem_append_right _ mem_cons_self) h

variable {t t' : Stream}

lemma Stream.WriterOk.send (h : t.WriterOk) (hmsg : msg ≠ .connectorRevoked)
    (hs : t.send msg = some t') : t'.WriterOk := by
  unfold Stream.send at hs
  split at hs <;> cases hs
  refine { h with outbound := fun hm => ?_ }
  rcases mem_append.1 hm with hm | hm
  · exact h.outbound hm
  · exact hmsg (mem_singleton.1 hm).symm

lemma Stream.WriterOk.not_written (h : t.WriterOk) (hw : t.writer ≠ .stopped) :
    .connectorRevoked ∉ t.written := fun hm => hw (h.stopped hm)

/-- A step of the writer leaves the handler's side alone. -/
structure Writes (t t' : Stream) : Prop where
  phase : t'.phase = t.phase
  revoked : t'.revoked = t.revoked
  enqueued : t'.enqueued = t.enqueued
  ok : t.WriterOk → t'.WriterOk

lemma writes_startWriter (hs : t.startWriter = some t') : Writes t t' := by
  unfold Stream.startWriter at hs
  split at hs <;> cases hs
  next hw =>
    refine ⟨rfl, rfl, rfl, fun h => ?_⟩
    have hn := h.not_written (by simp [hw])
    exact ⟨h.outbound, by simp, fun hm => absurd hm hn, h.last⟩

lemma writes_writerPriority (hs : t.writerPriority = some t') : Writes t t' := by
  unfold Stream.writerPriority at hs
  split at hs
  · next hw =>
    have hok : ∀ {writer terminal}, writer ≠ .sending .connectorRevoked → t.WriterOk →
        Stream.WriterOk { t with writer, terminal } := fun hsn h =>
      ⟨h.outbound, hsn, fun hm => absurd hm (h.not_written (by simp [hw])), h.last⟩
    split at hs
    · cases hs; exact ⟨rfl, rfl, rfl, hok (by simp)⟩
    · cases hs; exact ⟨rfl, rfl, rfl, hok (by simp)⟩
  · cases hs

lemma writes_writerSelect {choice} (hs : t.writerSelect choice = some t') : Writes t t' := by
  unfold Stream.writerSelect at hs
  split at hs
  · cases hs
    exact ⟨rfl, rfl, rfl, fun h => ⟨h.outbound, by simp, fun _ => rfl, h.last⟩⟩
  · next hw =>
    obtain ⟨msg, -, rfl⟩ := map_eq_some_iff.1 hs
    refine ⟨rfl, rfl, rfl, fun h => ?_⟩
    have hn := h.not_written (by simp [hw])
    exact ⟨h.outbound, by simp, fun hm => absurd hm hn, h.last⟩
  · next hw =>
    split at hs <;> cases hs
    next msg rest ho =>
      refine ⟨rfl, rfl, rfl, fun h => ?_⟩
      have hn := h.not_written (by simp [hw])
      have ho' := h.outbound
      rw [ho, mem_cons, not_or] at ho'
      refine ⟨ho'.2, fun heq => ?_, fun hm => absurd hm hn, h.last⟩
      cases heq
      exact ho'.1 rfl
  · cases hs

lemma writes_writerSend {ok} (hs : t.writerSend ok = some t') : Writes t t' := by
  have hst : Writes t { t with writer := .stopped } :=
    ⟨rfl, rfl, rfl, fun h => ⟨h.outbound, by simp, fun _ => rfl, h.last⟩⟩
  unfold Stream.writerSend at hs
  split at hs
  · next msg hw =>
    cases hs
    split
    · refine ⟨rfl, rfl, rfl, fun h => ?_⟩
      have hn := h.not_written (by simp [hw])
      refine ⟨h.outbound, by simp, fun hm => ?_, revokedLast_concat hn msg⟩
      rcases mem_append.1 hm with hm | hm
      · exact absurd hm hn
      · rw [← mem_singleton.1 hm] at hw
        exact absurd hw h.sending
    · exact hst
  · next msg hw =>
    cases hs
    split
    · refine ⟨rfl, rfl, rfl, fun h => ⟨h.outbound, by simp, fun _ => rfl, ?_⟩⟩
      exact revokedLast_concat (h.not_written (by simp [hw])) msg
    · exact hst
  · cases hs

/-! ### What a step does to one stream -/

/-- What any step but a mark does to a stream, given where the revocation stands. -/
structure Moves (signal : Signal) (t t' : Stream) : Prop where
  authorized : t'.phase.Authorized → signal = .none ∨ t.phase.Authorized
  revoked : t'.revoked = t.revoked
  acks : t'.acks = t.acks ∨ (t.phase.Authorized ∧ t.revoked = false)
  writer : t.WriterOk → t'.WriterOk

variable {signal : Signal}

lemma moves_phase (h : phase.Authorized → signal = .none ∨ t.phase.Authorized) :
    Moves signal t { t with phase } := ⟨h, rfl, .inl rfl, fun hw => { hw with }⟩

lemma send_spec (hs : t.send msg = some t') :
    t'.phase = t.phase ∧ t'.revoked = t.revoked ∧ t'.enqueued = t.enqueued ++ [msg] := by
  unfold Stream.send at hs
  split at hs
  · cases hs; exact ⟨rfl, rfl, rfl⟩
  · cases hs

lemma moves_send (hm : msg ≠ .connectorRevoked) (ha : ∀ seq, msg ≠ .authorizationAck seq)
    (hs : t.send msg = some t') (h : phase.Authorized → signal = .none ∨ t.phase.Authorized) :
    Moves signal t { t' with phase } := by
  obtain ⟨-, hr, he⟩ := send_spec hs
  refine ⟨h, hr, .inl ?_, fun hw => ?_⟩
  · simp only [Stream.acks, he, filterMap_append]
    cases msg <;> simp_all
  · have hw' := hw.send hm hs
    exact { hw' with }

variable {n seq : ℕ} {current : Option StreamId}

lemma moves_sendAuthorizationAck (ha : t.phase.Authorized)
    (hs : t.sendAuthorizationAck seq = some t') :
    Moves signal t { t' with phase := .serving .idle } := by
  unfold Stream.sendAuthorizationAck at hs
  split at hs
  · cases hs
  · next hr =>
    have hsp := send_spec hs
    refine ⟨(by rintro ⟨⟩), hsp.2.1, .inr ⟨ha, by simpa using hr⟩, fun hw => ?_⟩
    have hw' := hw.send (by simp) hs
    exact { hw' with }

/-! ### The invariant -/

structure Inv (s : State) : Prop where
  revoked : s.signal ≠ .none → s.db.Revoked
  live : ∀ id, (s.streams id).phase.Registered → id ∈ s.live
  marking : ∀ rest n, s.signal = .marking rest n → ∀ id, (s.streams id).phase.Authorized →
    (s.streams id).revoked = true ∨ id ∈ rest
  returned : ∀ n, s.signal = .returned n → ∀ id, (s.streams id).phase.Authorized →
    (s.streams id).revoked = true
  writer : ∀ id, (s.streams id).WriterOk

lemma inv_init (db : Db) : Inv (init db) where
  revoked := fun h => absurd rfl h
  live := nofun
  marking := nofun
  returned := nofun
  writer := fun _ => ⟨not_mem_nil, by simp [init, Stream.new], by simp [init, Stream.new],
    fun before after h => by cases before <;> cases h⟩

/-- The step keeps the invariant, and after `SignalRevoked` has returned it enqueues no ack. -/
structure Good (s s' : State) : Prop where
  inv : Inv s'
  acks : ∀ n, s.signal = .returned n →
    s'.signal = .returned n ∧ ∀ id, (s'.streams id).acks = (s.streams id).acks

variable {s s' : State}

lemma Good.of_moves (h : Inv s) (hmv : Moves s.signal (s.streams id) t)
    (hdb : s.db.Revoked → s'.db.Revoked) (hs : s'.signal = s.signal)
    (hst : s'.streams = update s.streams id t) (hl : ∀ i, i ≠ id → i ∈ s.live → i ∈ s'.live)
    (hreg : t.phase.Registered → id ∈ s'.live) : Good s s' := by
  have hsl : s'.streams id = t := by rw [hst, update_self]
  have ho : ∀ {i}, i ≠ id → s'.streams i = s.streams i := fun hi => by
    rw [hst, update_of_ne hi]
  constructor
  · refine ⟨fun hne => hdb (h.revoked (hs ▸ hne)), fun i hi => ?_, fun rest n hm i hi => ?_,
      fun n hr i hi => ?_, fun i => ?_⟩ <;> by_cases hid : i = id
    · subst hid; exact hreg (hsl ▸ hi)
    · exact hl i hid (h.live i (ho hid ▸ hi))
    · subst hid
      rw [hsl] at hi ⊢
      rw [hs] at hm
      have hold := (hmv.authorized hi).resolve_left (by simp [hm])
      exact hmv.revoked ▸ h.marking rest n hm i hold
    · rw [ho hid] at hi ⊢
      exact h.marking rest n (hs ▸ hm) i hi
    · subst hid
      rw [hsl] at hi ⊢
      rw [hs] at hr
      have hold := (hmv.authorized hi).resolve_left (by simp [hr])
      exact hmv.revoked ▸ h.returned n hr i hold
    · rw [ho hid] at hi ⊢
      exact h.returned n (hs ▸ hr) i hi
    · subst hid; exact hsl ▸ hmv.writer (h.writer i)
    · exact ho hid ▸ h.writer i
  · refine fun n hr => ⟨hs.trans hr, fun i => ?_⟩
    by_cases hid : i = id
    · subst hid
      rw [hsl]
      -- an authorized report's stream has been marked
      refine hmv.acks.resolve_right fun hu => ?_
      simp [h.returned n hr i hu.1] at hu
    · rw [ho hid]

lemma Good.withLifecycleMu (h : Good s s') (mu : Option Holder) :
    Good s { s' with lifecycleMu := mu } := ⟨{ h.inv with }, h.acks⟩

section

variable (h : Inv s)
include h

lemma Good.setStream (hm : Moves s.signal (s.streams id) t)
    (hreg : t.phase.Registered → (s.streams id).phase.Registered) : Good s (s.setStream id t) :=
  .of_moves h hm (fun hr => hr) rfl rfl (fun _ _ hi => hi) fun ht => h.live id (hreg ht)

lemma Good.setPhase (id : StreamId) (phase : StreamPhase)
    (ha : phase.Authorized → (s.streams id).phase.Authorized)
    (hr : phase.Registered → (s.streams id).phase.Registered) : Good s (s.setPhase id phase) :=
  .setStream h (moves_phase fun hp => .inr (ha hp)) hr

lemma Good.exec (st : Statement) (call : Call) : Good s (s.exec st call) where
  inv := { h with revoked := fun hne => ((h.revoked hne).exec st call).1 }
  acks := fun _ hr => ⟨hr, fun _ => rfl⟩

lemma Good.execSetPhase (st : Statement) (call : Call) (id : StreamId) (phase : StreamPhase)
    (ha : phase.Authorized → s.signal = .none)
    (hreg : phase.Registered → (s.streams id).phase.Registered) :
    Good s ((s.exec st call).setPhase id phase) :=
  .of_moves h (moves_phase fun hp => .inl (ha hp)) (fun hr => (hr.exec st call).1) rfl rfl
    (fun _ _ hi => hi) fun hp => h.live id (hreg hp)

lemma Good.register :
    Good s { s.setPhase id (.serving .idle) with
      current
      live := insert id s.live
      lifecycleMu := none } := by
  refine .of_moves h (moves_phase ?_) (fun hr => hr) rfl rfl
    (fun _ _ hi => Finset.mem_insert_of_mem hi) fun _ => Finset.mem_insert_self id _
  exact nofun

lemma Good.unregister (ha : ¬ phase.Authorized) (hreg : ¬ phase.Registered) :
    Good s { s.setPhase id phase with
      live := s.live.erase id
      current
      lifecycleMu := mu } := .of_moves h (moves_phase fun hp => absurd hp ha) (fun hr => hr) rfl rfl
    (fun _ hi hm => Finset.mem_erase.2 ⟨hi, hm⟩) fun hp => absurd hp hreg

lemma Good.writer (hw : Writes (s.streams id) t) : Good s (s.setStream id t) := by
  refine .setStream h ⟨fun hp => .inr (hw.phase ▸ hp), hw.revoked, .inl ?_, hw.ok⟩
    fun hp => hw.phase ▸ hp
  simp only [Stream.acks, hw.enqueued]

end

lemma markRevoked_spec (t : Stream) :
    t.markRevoked.1.revoked = true ∧ t.markRevoked.1.phase = t.phase ∧
    (t.WriterOk → t.markRevoked.1.WriterOk) := by
  unfold Stream.markRevoked
  split
  · next hr => exact ⟨hr, rfl, id⟩
  · split <;> exact ⟨rfl, rfl, fun hw => { hw with }⟩

section

variable (h : Inv s)
include h

lemma Good.markRevoked {rest m} (hs : s.signal = .marking (id :: rest) n) :
    Good s { s.setStream id (s.streams id).markRevoked.1 with signal := .marking rest m } := by
  obtain ⟨hrev, hp, hw⟩ := markRevoked_spec (s.streams id)
  refine ⟨⟨fun _ => h.revoked (by simp [hs]), fun i hi => ?_, fun rest' n' heq i hi => ?_,
    (by simp), fun i => ?_⟩, fun n hr => by rw [hs] at hr; cases hr⟩ <;>
      by_cases hid : i = id
  · subst hid
    simp only [State.setStream, update_self, hp] at hi
    exact h.live i hi
  · simp only [State.setStream, update_of_ne hid] at hi
    exact h.live i hi
  · subst hid
    simp only [State.setStream, update_self]
    exact .inl hrev
  · cases heq
    simp only [State.setStream, update_of_ne hid] at hi ⊢
    exact (h.marking _ _ hs i hi).imp_right fun hm => (mem_cons.1 hm).resolve_left hid
  · subst hid
    simp only [State.setStream, update_self]
    exact hw (h.writer i)
  · simp only [State.setStream, update_of_ne hid]
    exact h.writer i

lemma Inv.signal_none {st} (hst : st ≠ .delete) (hr : (s.db.exec st call).2 = some true) :
    s.signal = .none := by
  by_contra hne
  exact ((h.revoked hne).exec st call).2 hst hr

lemma Good.revokeConnector (hrow : (s.db.exec .revoke call).2 = some true) :
    Good s { s.exec .revoke call with signal := .due } := by
  have hn := h.signal_none (by simp) hrow
  constructor
  · exact ⟨fun _ => revoked_of_revoke hrow, h.live, by simp, by simp, h.writer⟩
  · intro n hr
    rw [hn] at hr
    cases hr

lemma Good.signalRevoked {sts : List StreamId} (hd : s.signal = .due) (hs : sts.toFinset = s.live) :
    Good s { s with signal := .marking sts 0, lifecycleMu := mu } := by
  have hrev : s.db.Revoked := h.revoked (by simp [hd])
  constructor
  · refine ⟨fun _ => hrev, h.live, fun rest n heq id ha => ?_, by simp, h.writer⟩
    cases heq
    have hl := h.live id ha.registered
    rw [← hs, List.mem_toFinset] at hl
    exact .inr hl
  · intro n hr
    rw [hd] at hr
    cases hr

lemma Good.signalReturn (hmr : s.signal = .marking [] n) :
    Good s { s with signal := .returned n, lifecycleMu := mu } := by
  have hrev : s.db.Revoked := h.revoked (by simp [hmr])
  constructor
  · refine ⟨fun _ => hrev, h.live, by simp, fun m _ id ha => ?_, h.writer⟩
    have hm := h.marking [] n hmr id ha
    exact hm.resolve_right not_mem_nil
  · intro m hr
    rw [hmr] at hr
    cases hr

lemma good_health (hs : step s (.health id seq call) = some s') : Good s s' := by
  dsimp only [step] at hs
  split at hs
  · next hp =>
    have hr : (s.streams id).phase.Registered := hp ▸ .serving _
    split at hs
    · cases hs
      exact .setPhase h id _ (by rintro ⟨⟩) (fun _ => hr)
    · split at hs
      · cases hs
        exact .execSetPhase h _ _ id _ (by rintro ⟨⟩) (fun _ => hr)
      · next hrow =>
        cases hs
        have hn := h.signal_none (by simp) hrow
        exact .execSetPhase h _ _ id _ (fun _ => hn) (fun _ => hr)
      · cases hs
        exact .exec h .health call
  · cases hs

lemma good_pushAclSnapshot {push} (hs : step s (.pushAclSnapshot id push) = some s') :
    Good s s' := by
  dsimp only [step] at hs
  split at hs
  · next seq hp =>
    have hr : (s.streams id).phase.Registered := hp ▸ .serving _
    have ha : (s.streams id).phase.Authorized := hp ▸ .authorized seq
    split at hs
    · cases hs
      exact .setPhase h id _ (fun _ => ha) (fun _ => hr)
    · cases hs
      exact .setPhase h id _ (fun _ => ha) (fun _ => hr)
    · split at hs
      · cases hs
        exact .setPhase h id _ (fun _ => ha) (fun _ => hr)
      · next hsn =>
        cases hs
        exact .setStream h (moves_send (by simp) (by simp) hsn fun _ => .inr ha) (fun _ => hr)
  · cases hs

lemma good_sendAuthorizationAck (hs : step s (.sendAuthorizationAck id) = some s') : Good s s' := by
  dsimp only [step] at hs
  split at hs
  · next seq hp =>
    have hr : (s.streams id).phase.Registered := hp ▸ .serving _
    have ha : (s.streams id).phase.Authorized := hp ▸ .pushed seq
    split at hs
    · cases hs
      exact .setPhase h id _ (fun _ => ha) (fun _ => hr)
    · next hsn =>
      cases hs
      exact .setStream h (moves_sendAuthorizationAck ha hsn) (fun _ => hr)
  · cases hs

lemma good_step {a} (hs : step s a = some s') : Good s s' := by
  cases a <;> dsimp only [step] at hs
  case openStream id lookup =>
    split at hs
    · split at hs <;> cases hs <;>
        exact .setPhase h id _ (by rintro ⟨⟩) (by rintro ⟨⟩)
    · cases hs
  case activateLock id =>
    split at hs <;> cases hs
    exact (Good.setPhase h id .activating (by rintro ⟨⟩) (by rintro ⟨⟩)).withLifecycleMu _
  case activateUpdate id call =>
    split at hs
    · split at hs <;> cases hs <;>
        exact .execSetPhase h _ _ id _ (by rintro ⟨⟩) (by rintro ⟨⟩)
    · cases hs
  case refuseActivation id lookup =>
    split at hs <;> cases hs
    exact (Good.setPhase h id (.closed _) (by rintro ⟨⟩) (by rintro ⟨⟩)).withLifecycleMu _
  case register id =>
    split at hs
    · cases hs; exact .register h
    · cases hs
  case health id seq call => exact good_health h hs
  case refuseHealth id lookup =>
    split at hs <;> cases hs
    next hp => exact .setPhase h id _ (by rintro ⟨⟩) (fun _ => hp ▸ .serving _)
  case pushAclSnapshot id push => exact good_pushAclSnapshot h hs
  case sendAuthorizationAck id => exact good_sendAuthorizationAck h hs
  case enqueue id kind =>
    obtain ⟨t, ht, rfl⟩ := map_eq_some_iff.1 hs
    have hph := (send_spec ht).1
    have hm : Moves s.signal (s.streams id) { t with phase := t.phase } :=
      moves_send (by simp) (by simp) ht fun hp => .inr (hph ▸ hp)
    exact .setStream h hm (fun hp => hph ▸ hp)
  case hangUp id =>
    split at hs <;> cases hs
    next hp => exact .setPhase h id _ (by rintro ⟨⟩) (fun _ => hp ▸ .serving _)
  case endRevoked id =>
    split at hs
    · next hp =>
      split at hs <;> cases hs
      exact .setPhase h id _ (by rintro ⟨⟩) (fun _ => hp ▸ .serving _)
    · cases hs
  case retire id =>
    split at hs
    · split at hs <;> cases hs
      · exact .unregister h (by rintro ⟨⟩) (by rintro ⟨⟩)
      · exact .unregister h (by rintro ⟨⟩) (by rintro ⟨⟩)
    · cases hs
  case retireUpdate id call =>
    split at hs <;> cases hs
    exact (Good.execSetPhase h .disconnect call id (.closed _) (by rintro ⟨⟩)
      (by rintro ⟨⟩)).withLifecycleMu _
  case startWriter id =>
    obtain ⟨t, ht, rfl⟩ := map_eq_some_iff.1 hs
    exact .writer h (writes_startWriter ht)
  case writerPriority id =>
    obtain ⟨t, ht, rfl⟩ := map_eq_some_iff.1 hs
    exact .writer h (writes_writerPriority ht)
  case writerSelect id choice =>
    obtain ⟨t, ht, rfl⟩ := map_eq_some_iff.1 hs
    exact .writer h (writes_writerSelect ht)
  case writerSend id ok =>
    obtain ⟨t, ht, rfl⟩ := map_eq_some_iff.1 hs
    exact .writer h (writes_writerSend ht)
  case revokeConnector call =>
    split at hs
    · next hr => cases hs; exact .revokeConnector h hr
    · cases hs
      exact .exec h .revoke call
  case signalRevoked streams =>
    split at hs
    · next hd _ =>
      split at hs
      · next hst => cases hs; exact .signalRevoked h hd hst.2
      · cases hs
    · cases hs
  case markRevoked =>
    split at hs
    · next hmr => cases hs; exact .markRevoked h hmr
    · cases hs
  case signalReturn =>
    split at hs
    · next hmr => cases hs; exact .signalReturn h hmr
    · cases hs
  case goodbye call => cases hs; exact .exec h .goodbye call
  case watcher call => cases hs; exact .exec h .watcher call
  case enroll call => cases hs; exact .exec h .enroll call
  case deleteConnector call => cases hs; exact .exec h .delete call

end

/-- **No ack after a revocation**: in every state `ConnectorRevoked` is the last message
written on a stream, and once `SignalRevoked` has returned no run enqueues another
`AuthorizationAck` on any stream of the connector. -/
theorem no_ack_after_signalRevoked (db : Db) (acts : List Action) (s : State)
    (hexec : Runs.exec step (init db) acts = some s) :
    (∀ id, RevokedLast (s.streams id).written) ∧
    ∀ n, s.signal = .returned n → ∀ later s', Runs.exec step s later = some s' →
      ∀ id, (s'.streams id).acks = (s.streams id).acks := by
  have hi : Inv s := Runs.exec_inv (fun _ _ _ h hs => (good_step h hs).inv) (inv_init db) hexec
  refine ⟨fun id => (hi.writer id).last, fun n hn later s' hl => ?_⟩
  have hk : Inv s' ∧ s'.signal = .returned n ∧
      ∀ id, (s'.streams id).acks = (s.streams id).acks := by
    refine Runs.exec_inv (I := fun u => Inv u ∧ u.signal = .returned n ∧
      ∀ id, (u.streams id).acks = (s.streams id).acks) ?_ ⟨hi, hn, fun _ => rfl⟩ hl
    intro u a u' ⟨hu, hun, ha⟩ hst
    have hg := good_step hu hst
    obtain ⟨hun', hsm⟩ := hg.acks n hun
    exact ⟨hg.inv, hun', fun id => (hsm id).trans (ha id)⟩
  exact hk.2.2

/-- Stream 0 has one report acknowledged and a second one past its `UPDATE` when the connector
is revoked. -/
def revokedMidReport : List Action :=
  [.openStream 0 .ok, .activateLock 0, .activateUpdate 0 .ok, .register 0, .startWriter 0,
    .health 0 1 .ok, .pushAclSnapshot 0 .current, .sendAuthorizationAck 0, .health 0 2 .ok,
    .pushAclSnapshot 0 .send, .openStream 1 .ok, .revokeConnector .ok, .signalRevoked [0],
    .markRevoked, .signalReturn]

/-- The second report's ack, the terminal message, and stream 1, which is registered because
its activation fails with a database error. -/
def afterRevocation : List Action :=
  [.sendAuthorizationAck 0, .writerPriority 0, .writerSend 0 true, .endRevoked 0,
    .activateLock 1, .activateUpdate 1 (.failed false), .register 1, .health 1 1 .ok,
    .refuseHealth 1 .ok]

theorem no_ack_revokedMidReport :
    ∃ s s', Runs.exec step (init ⟨some ⟨.active, false⟩, false⟩) revokedMidReport = some s ∧
      s.signal = .returned 1 ∧ Runs.exec step s afterRevocation = some s' ∧
      (s.streams 0).acks = [1] ∧ (s'.streams 0).written = [.connectorRevoked] ∧
      (s'.streams 1).phase = .closing (some rejectRevoked) ∧
      (∀ id, RevokedLast (s'.streams id).written) ∧
      ∀ id, (s'.streams id).acks = (s.streams id).acks := by
  obtain ⟨s, he, hs, ha, s', hl, hw, hp⟩ :
      ∃ s, Runs.exec step (init ⟨some ⟨.active, false⟩, false⟩) revokedMidReport = some s ∧
        s.signal = .returned 1 ∧ (s.streams 0).acks = [1] ∧
        ∃ s', Runs.exec step s afterRevocation = some s' ∧
          (s'.streams 0).written = [.connectorRevoked] ∧
          (s'.streams 1).phase = .closing (some rejectRevoked) := by
    decide +kernel
  have hb : Runs.exec step (init ⟨some ⟨.active, false⟩, false⟩)
      (revokedMidReport ++ afterRevocation) = some s' := by
    rw [Runs.exec_append, he]; exact hl
  exact ⟨s, s', he, hs, hl, ha, hw, hp, (no_ack_after_signalRevoked _ _ s' hb).1,
    (no_ack_after_signalRevoked _ _ s he).2 1 hs _ s' hl⟩

end Zecurity.ControlStream
