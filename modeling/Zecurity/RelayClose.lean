import Zecurity.Relay

/-!
A truncated transfer does not look complete: the invariant of a tunnel, and the runs in which it
breaks.

The shield takes the end of the connector's stream for a clean end: the stream must not end well
where its task left without a last frame.
-/

namespace Zecurity.Relay

open FramePipe Option Runs

/-- The loop ended with a clean end from the shield. -/
def Phase.isClean : Phase → Bool
  | .ended .clean | .stopping .clean | .shutting => true
  | _ => false

structure Inv (s : State) : Prop where
  up : FramePipe.Inv s.up
  down : FramePipe.Inv s.down
  stopped : s.stop = true → s.abort = true ∨ Announced s.up
  deserted : Deserted s.up → s.abort = true ∧ s.polling = false
  whole : s.up.cut = false
  leaving : s.relay.isClean = true → .done "" ∈ s.down.taken
  kept : s.orphaned = false
  device : s.deviceEof = true → .done "" ∈ s.down.taken
  resource : s.resourceFin = true → .done "" ∈ s.up.taken

lemma inv_start : Inv start where
  up := FramePipe.inv_start
  down := FramePipe.inv_start
  stopped := nofun
  deserted := fun h => (by cases h.1)
  whole := rfl
  leaving := nofun
  kept := rfl
  device := nofun
  resource := nofun

lemma looksAsIs_of_inv {s} (hinv : Inv s) : LooksAsIs s :=
  ⟨fun h => hinv.up.complete (hinv.resource h), fun h => hinv.down.complete (hinv.device h)⟩

/-! ### The two directions -/

section Directions

variable {s s' : State} {op : Op UInt8}

lemma Inv.onDown (hinv : Inv s) (ht : op ≠ .close (.error "")) (hs : s.onDown op = some s') :
    Inv s' := by
  obtain ⟨down, hd, rfl⟩ := map_eq_some_iff.1 hs
  exact
    { hinv with
      down := inv_step hinv.down ht hd
      leaving := fun h => mem_taken_of_step hd (hinv.leaving h)
      device := fun h => mem_taken_of_step hd (hinv.device h) }

/-- A step of the device's direction: stopping the task is fine where the session is aborted or
the last frame queued, with no poll under way, and ending the stream where the task did not leave
without it. -/
lemma Inv.onUp (hinv : Inv s) (ht : op ≠ .close (.error ""))
    (hst : op = .stop → (s.abort = true ∨ Announced s.up) ∧ s.polling = false)
    (hf : op = .finish → ¬ Deserted s.up) (hs : s.onUp op = some s') : Inv s' := by
  obtain ⟨up, hup, rfl⟩ := map_eq_some_iff.1 hs
  have ha : Announced s.up → Announced up := fun ⟨e, he⟩ => ⟨e, mem_queued_of_step hup he⟩
  refine
    { hinv with
      up := inv_step hinv.up ht hup
      stopped := fun h => (hinv.stopped h).imp_right ha
      deserted := ?_
      whole := ?_
      resource := fun h => mem_taken_of_step hup (hinv.resource h) }
  · intro hd
    rcases deserted_of_step hup hd with hb | hop
    · exact hinv.deserted hb
    · obtain ⟨hab | hdn, hp⟩ := hst hop
      · exact ⟨hab, hp⟩
      · obtain ⟨e, he⟩ := ha hdn
        exact absurd he (hd.2.1 e)
  · by_contra hc
    rcases cut_of_step hup (by simpa using hc) with hb | ⟨hop, hd⟩
    · exact absurd hb (by simp [hinv.whole])
    · exact hf hop hd

/-- An operation that neither closes the source nor stops the task nor ends the stream. -/
def plain : Op UInt8 → Bool
  | .close _ | .stop | .finish => false
  | _ => true

lemma ne_close_of_plain (h : plain op = true) : op ≠ .close (.error "") := by
  rintro rfl
  cases h

lemma Inv.onUp_plain (hinv : Inv s) (h : plain op = true) (hs : s.onUp op = some s') : Inv s' := by
  refine hinv.onUp (ne_close_of_plain h) ?_ ?_ hs
  · rintro rfl
    cases h
  · rintro rfl
    cases h

lemma Inv.onDown_plain (hinv : Inv s) (h : plain op = true) (hs : s.onDown op = some s') : Inv s' :=
  hinv.onDown (ne_close_of_plain h) hs

end Directions

/-! ### Ends -/

variable {s s' : State}

section

variable (hinv : Inv s)
include hinv

lemma Inv.failResource : Inv s.failResource := { hinv with down := hinv.down.stop }

lemma Inv.shutResource (h : .done "" ∈ s.up.taken) : Inv s.shutResource :=
  { hinv with resource := fun _ => h }

lemma Inv.leave {e} (h : e = .clean → .done "" ∈ s.down.taken) : Inv (s.leave e) :=
  { hinv with leaving := fun hc => h (by cases e <;> first | rfl | cases hc) }

/-- The resource is shut down only on the device's clean last frame: an end of the stream without
one does not come, as the stream is not cut. -/
lemma inv_c2rReceive (hs : step s .c2rReceive = some s') : Inv s' := by
  unfold step at hs
  simp only [State.whenServing] at hs
  split at hs
  · cases hs
  · split at hs
    · cases hs
    · next msg rest hw =>
      obtain ⟨s1, hs1, rfl⟩ := map_eq_some_iff.1 hs
      have hi1 : Inv s1 := hinv.onUp_plain rfl hs1
      obtain ⟨up, hup, rfl⟩ := map_eq_some_iff.1 hs1
      obtain ⟨msg', rest', hsn, hw', rfl⟩ := receive_some hup
      obtain ⟨rfl, rfl⟩ := List.cons.inj (hw.symm.trans hw')
      match msg with
      | .frame (.data bytes) => exact hi1
      | .frame (.done error) =>
        by_cases hc : error = ""
        · subst hc
          exact hi1.shutResource (by simp [Pipe.take])
        · simp only [resourceEnd, hc, decide_false]
          exact hi1.failResource
      | .finished =>
        have hcut := hinv.up.cut_of_finished hsn hw
        cases hinv.whole.symm.trans hcut
      | .failed => exact hi1.failResource

lemma inv_loopReceive (hs : step s .loopReceive = some s') : Inv s' := by
  unfold step at hs
  simp only [State.whenRunning] at hs
  split at hs
  · split at hs
    · cases hs
    · next msg rest hw =>
      obtain ⟨s1, hs1, rfl⟩ := map_eq_some_iff.1 hs
      have hi1 : Inv s1 := hinv.onDown_plain rfl hs1
      obtain ⟨down, hd, rfl⟩ := map_eq_some_iff.1 hs1
      obtain ⟨msg', rest', hsn, hw', rfl⟩ := receive_some hd
      obtain ⟨rfl, rfl⟩ := List.cons.inj (hw.symm.trans hw')
      match msg with
      | .frame (.data bytes) => exact hi1
      | .frame (.done error) =>
        refine hi1.leave fun hc => ?_
        have he : error = "" := by
          by_contra hne
          rw [if_neg hne] at hc
          cases hc
        simp [Pipe.take, he]
      | .finished => exact hi1.leave (by simp)
      | .failed => exact hi1.leave (by simp)
  · cases hs

lemma inv_pollRecv (hs : step s .pollRecv = some s') : Inv s' := by
  dsimp only [step] at hs
  split at hs
  · next hp =>
    have hn : ¬ Deserted s.up := fun h => by cases (hinv.deserted h).2.symm.trans hp
    have hi1 : Inv { s with polling := false } := { hinv with deserted := fun h => absurd h hn }
    split at hs
    · next op hop =>
      have hpl : op = .pull ∨ op = .finish := by
        unfold recvOp at hop
        split at hop <;> cases hop
        · exact .inl rfl
        · exact .inr rfl
      rcases hpl with rfl | rfl
      · exact hi1.onUp_plain rfl hs
      · exact hi1.onUp (by simp) (by simp) (fun _ => hn) hs
    · cases hs
      exact hi1
  · cases hs

lemma inv_d2s {op} (hp : plain op = true) (hs : (if s.stop then none else s.onUp op) = some s') :
    Inv s' := by
  split at hs
  · cases hs
  · exact hinv.onUp_plain hp hs

lemma inv_r2c {op} (hp : plain op = true)
    (hs : (if s.shieldDone then none else s.onDown op) = some s') : Inv s' := by
  split at hs
  · cases hs
  · exact hinv.onDown_plain hp hs

lemma inv_leave {cond : Prop} [Decidable cond] {e} (he : e ≠ .clean)
    (hs : s.whenRunning (if cond then some (s.leave e) else none) = some s') : Inv s' := by
  unfold State.whenRunning at hs
  split at hs
  · split at hs <;> cases hs
    exact hinv.leave fun h => absurd h he
  · cases hs

/-! ### The end of `relay_stream` -/

lemma inv_settle (hs : step s .settle = some s') : Inv s' := by
  dsimp only [step] at hs
  split at hs
  · cases hs
    exact
      { hinv with
        stopped := fun _ => .inl rfl
        deserted := fun h => ⟨rfl, (hinv.deserted h).2⟩
        leaving := by rintro ⟨⟩ }
  · cases hs
    exact { hinv with leaving := by rintro ⟨⟩ }
  · next hr =>
    cases hs
    exact { hinv with leaving := fun _ => hinv.leaving (by rw [hr]; rfl) }
  · cases hs

end

lemma inv_step (s : State) (a : Action) (s' : State) (hinv : Inv s) (hok : EndsInOrder s a)
    (hs : step s a = some s') : Inv s' := by
  cases a <;> dsimp only [step] at hs
  case deviceSends bytes => exact hinv.onUp_plain rfl hs
  case deviceCloses closing =>
    exact hinv.onUp (fun h => hok (by injection h)) (by simp) (by simp) hs
  case resourceSends bytes => exact hinv.onDown_plain rfl hs
  case resourceCloses closing => exact hinv.onDown (fun h => hok (by injection h)) hs
  case revoke | hubAbort =>
    cases hs
    exact
      { hinv with
        stopped := fun _ => .inl rfl
        deserted := fun h => ⟨rfl, (hinv.deserted h).2⟩ }
  case tunnelClose =>
    cases hs
    exact { hinv with }
  case breakStream keptUp keptDown =>
    obtain ⟨s1, hs1, hs2⟩ := bind_eq_some_iff.1 hs
    have hi1 : Inv s1 := hinv.onUp_plain rfl hs1
    exact hi1.onDown_plain rfl hs2
  case d2sRead n => exact inv_d2s hinv rfl hs
  case d2sReadEnd => exact inv_d2s hinv rfl hs
  case d2sSend => exact inv_d2s hinv rfl hs
  case d2sSendFails => exact hinv.onUp_plain rfl hs
  case d2sStop =>
    split at hs
    · next hst =>
      exact hinv.onUp (by simp) (fun _ => ⟨hinv.stopped hst, hok⟩) (by simp) hs
    · cases hs
  case pollAbort =>
    split at hs
    · cases hs
    · split at hs
      · exact hinv.onUp_plain rfl hs
      · next ha =>
        cases hs
        exact { hinv with deserted := fun h => absurd (hinv.deserted h).1 ha }
  case pollRecv => exact inv_pollRecv hinv hs
  case loopRevoked => exact inv_leave hinv (by simp) hs
  case loopAborted => exact inv_leave hinv (by simp) hs
  case loopExpired => exact inv_leave hinv (by simp) hs
  case loopReceive => exact inv_loopReceive hinv hs
  case loopWrite n =>
    simp only [State.whenRunning] at hs
    split at hs
    · exact hinv.onDown_plain rfl hs
    · cases hs
  case loopWriteFails =>
    simp only [State.whenRunning] at hs
    split at hs
    · split at hs
      · obtain ⟨s1, hs1, rfl⟩ := map_eq_some_iff.1 hs
        exact (hinv.onDown_plain rfl hs1).leave (by simp)
      · cases hs
    · cases hs
  case stopTask =>
    split at hs <;> cases hs
    next e hr =>
      refine { hinv with stopped := fun _ => hok, leaving := fun h => hinv.leaving ?_ }
      rw [hr]
      cases e <;> first | rfl | cases h
  case settle => exact inv_settle hinv hs
  case rejoin =>
    split at hs <;> cases hs
    exact { hinv with leaving := by rintro ⟨⟩ }
  case dropGuard =>
    split at hs <;> cases hs
    exact
      { hinv with
        stopped := fun h => (hinv.stopped h).imp_left fun h => by simp [h]
        deserted := fun h => ⟨by simp [(hinv.deserted h).1], (hinv.deserted h).2⟩
        leaving := by rintro ⟨⟩ }
  case shutdownDevice =>
    split at hs <;> cases hs
    next hr =>
      have hc := hinv.leaving (by rw [hr]; rfl)
      exact { hinv with leaving := by rintro ⟨⟩, device := fun _ => hc }
  case rejoinTimeout => exact hok.elim
  case dropDevice =>
    simp only [hinv.kept] at hs
    split at hs <;> cases hs
  case r2cRead n => exact inv_r2c hinv rfl hs
  case r2cReadEnd => exact inv_r2c hinv rfl hs
  case r2cSend => exact inv_r2c hinv rfl hs
  case r2cSendFails => exact inv_r2c hinv rfl hs
  case r2cDone =>
    split at hs
    · split at hs <;> cases hs
      exact { hinv with }
    · cases hs
  case r2cPull => exact hinv.onDown_plain rfl hs
  case r2cFinish => exact hinv.onDown (by simp) hs
  case c2rReceive => exact inv_c2rReceive hinv hs
  case c2rWrite n =>
    simp only [State.whenServing] at hs
    split at hs
    · cases hs
    · exact hinv.onUp_plain rfl hs
  case c2rWriteFails =>
    simp only [State.whenServing] at hs
    split at hs
    · cases hs
    · split at hs
      · obtain ⟨s1, hs1, rfl⟩ := map_eq_some_iff.1 hs
        exact (hinv.onUp_plain rfl hs1).failResource
      · cases hs
  case c2rAborted =>
    split at hs
    · cases hs
    · split at hs
      · obtain ⟨s1, hs1, rfl⟩ := map_eq_some_iff.1 hs
        exact (hinv.onUp_plain rfl hs1).failResource
      · cases hs

/-- **A truncated transfer does not look complete**, in every run whose steps meet the
condition. -/
theorem looksAsIs_of_endsInOrder {acts : List Action} (hmeets : Meets step EndsInOrder start acts) :
    Always step (fun _ _ s' => LooksAsIs s') start acts :=
  always_of_meets inv_step
    (fun s a s' hinv hok hs => looksAsIs_of_inv (inv_step s a s' hinv hok hs)) inv_start hmeets

/-! ### Endings -/

/-- The device sends two bytes and ends, and the resource answers with one and ends. -/
def exchange : List Action :=
  [.deviceSends [1, 2], .deviceCloses .eof, .d2sRead 2, .d2sSend, .d2sReadEnd, .d2sSend,
    .pollAbort, .pollRecv, .pollAbort, .pollRecv, .c2rReceive, .c2rWrite 2, .c2rReceive,
    .resourceSends [3], .resourceCloses .eof, .r2cRead 1, .r2cSend, .r2cReadEnd, .r2cSend,
    .r2cPull, .r2cPull, .loopReceive, .loopWrite 1, .loopReceive]

/-- And the connector closes the tunnel. -/
def bothEnd : List Action := exchange ++ [Action.stopTask, .settle, .shutdownDevice]

/-- The resource ends first, while the device is still sending. -/
def resourceEndsFirst : List Action :=
  [.deviceSends [1, 2], .resourceCloses .eof, .r2cReadEnd, .r2cSend, .r2cPull, .loopReceive,
    .stopTask, .d2sStop, .pollAbort, .pollRecv, .c2rReceive]

/-- The resource connection fails, and the task does not give its half back in time. -/
def resourceFailsLate : List Action :=
  [.resourceSends [3], .resourceCloses (.error "connection reset"), .r2cReadEnd, .r2cSend, .r2cPull,
    .loopReceive, .stopTask, .settle, .rejoinTimeout, .d2sStop, .dropDevice]

theorem looksAsIs_bothEnd :
    Meets step EndsInOrder start bothEnd ∧
      Always step (fun _ _ s' => LooksAsIs s') start bothEnd ∧
      ∃ s, exec step start bothEnd = some s ∧ s.resourceFin = true ∧ s.deviceEof = true := by
  have hm : Meets step EndsInOrder start bothEnd := by
    have he : ∀ a ∈ exchange, ∀ s, EndsInOrder s a := by simp [exchange, EndsInOrder]
    refine .append (.of_forall he start) rfl (.cons rfl (.inr ⟨"", ?_⟩) ?_)
    · decide
    · exact .cons_of_forall trivial fun _ => .cons_of_forall trivial fun _ => trivial
  exact ⟨hm, looksAsIs_of_endsInOrder hm, _, rfl, rfl, rfl⟩

/-- The resource sees a clean end though the device did not end, and the device though the
resource failed. -/
theorem truncated_looks_complete :
    ¬ Always step (fun _ _ s' => LooksAsIs s') start resourceEndsFirst ∧
      ¬ Always step (fun _ _ s' => LooksAsIs s') start resourceFailsLate := by
  refine ⟨fun h => ?_, fun h => ?_⟩
  · obtain ⟨hr, -⟩ := h (resourceEndsFirst.take 10) .c2rReceive [] _ _ rfl rfl rfl
    cases (hr rfl).1
  · obtain ⟨-, hd⟩ := h (resourceFailsLate.take 10) .dropDevice [] _ _ rfl rfl rfl
    cases (hd rfl).1

end Zecurity.Relay
