import Zecurity.RelayClose

/-!
What a tunnel delivers, however it ends: what is written at one end is what the other end sent, in
its order, up to some byte.
-/

namespace Zecurity.Relay

open FramePipe List Option Runs

structure InOrder (p : Pipe UInt8) : Prop where
  inv : FramePipe.Inv p
  written : p.written <+: p.sent

lemma InOrder.step {p p' chunk cap op} (h : InOrder p) (ht : op ≠ .close (.error ""))
    (hs : p.step chunk cap op = some p') : InOrder p' := by
  refine ⟨FramePipe.inv_step h.inv ht hs, ?_⟩
  cases op <;> dsimp only [Pipe.step] at hs
  case write n =>
    split at hs
    · next rest hsink =>
      obtain ⟨-, rfl⟩ := ite_some_none_eq_some.1 hs
      -- the frame being written is one that was queued, and so are those before it
      have hq : p.written ++ rest <+: p.sent := by
        rw [h.inv.delivered.writing rest hsink]
        have hf := (prefix_append _ _).trans h.inv.carried.ordered
        exact (hf.flatMap _).trans h.inv.sent.within
      exact ((prefix_append_right_inj _).2 <| take_prefix n rest).trans hq
    · cases hs
  case source bytes =>
    obtain ⟨-, rfl⟩ := ite_some_none_eq_some.1 hs
    exact h.written.trans (prefix_append _ _)
  case receive =>
    split at hs <;> cases hs
    unfold Pipe.take
    split <;> exact h.written
  all_goals repeat' split at hs
  all_goals cases hs
  all_goals exact h.written

def Carries (s : State) : Prop := InOrder s.up ∧ InOrder s.down

variable {s s' : State} {op : Op UInt8}

section

variable (h : Carries s)
include h

lemma Carries.onUp (ht : op ≠ .close (.error "")) (hs : s.onUp op = some s') : Carries s' := by
  obtain ⟨up, hup, rfl⟩ := map_eq_some_iff.1 hs
  exact ⟨h.1.step ht hup, h.2⟩

lemma Carries.onDown (ht : op ≠ .close (.error "")) (hs : s.onDown op = some s') : Carries s' := by
  obtain ⟨down, hd, rfl⟩ := map_eq_some_iff.1 hs
  exact ⟨h.1, h.2.step ht hd⟩

lemma Carries.failResource : Carries s.failResource := ⟨h.1, h.2.inv.stop, h.2.written⟩

end

/-- An error of the device or the resource has a text. -/
def Texts (_ : State) : Action → Prop
  | .deviceCloses closing | .resourceCloses closing => closing ≠ .error ""
  | _ => True

lemma carries_step (s : State) (a : Action) (s' : State) (h : Carries s) (hok : Texts s a)
    (hs : step s a = some s') : Carries s' := by
  cases a <;> dsimp only [step, recvOp, State.whenRunning, State.whenServing] at hs
  case deviceCloses closing => exact h.onUp (fun h => hok (by injection h)) hs
  case resourceCloses closing => exact h.onDown (fun h => hok (by injection h)) hs
  case breakStream keptUp keptDown =>
    obtain ⟨s1, hs1, hs2⟩ := bind_eq_some_iff.1 hs
    exact (h.onUp (by simp) hs1).onDown (by simp) hs2
  case pollRecv =>
    obtain ⟨-, hs⟩ := ite_none_right_eq_some.1 hs
    split at hs
    · next op hop =>
      have hne : op ≠ .close (.error "") := by split at hop <;> cases hop <;> simp
      exact Carries.onUp (s := { s with polling := false }) h hne hs
    · cases hs
      exact h
  -- one operation on one direction, after which the relay or the resource may be done
  all_goals repeat' split at hs
  all_goals try obtain ⟨s1, hs1, rfl⟩ := map_eq_some_iff.1 hs
  all_goals first
    | exact h.onUp (by simp) hs
    | exact h.onDown (by simp) hs
    | exact (h.onUp (by simp) hs1).failResource
    | (have h1 := h.onUp (by simp) hs1; exact h1)
    | (have h1 := h.onDown (by simp) hs1; exact h1)
    | (have h1 := h.onDown (by simp) hs1; cases loopEnd _ <;> exact h1)
    | (cases hs; exact h)
    | cases hs

/-- **Both directions are in order**: in every run, with aborts, revocations and broken streams,
what each end was written is a prefix of what the other end sent. -/
theorem carried_in_order (acts : List Action) (s : State) (hok : Meets step Texts start acts)
    (h : exec step start acts = some s) :
    s.up.written <+: s.up.sent ∧ s.down.written <+: s.down.sent := by
  have hs : Carries start := ⟨⟨FramePipe.inv_start, prefix_rfl⟩, FramePipe.inv_start, prefix_rfl⟩
  have hc := exec_inv_of_meets carries_step hs hok h
  exact ⟨hc.1.written, hc.2.written⟩

theorem carried_in_order_resourceEndsFirst : ∃ s : State,
    Meets step Texts start resourceEndsFirst ∧ exec step start resourceEndsFirst = some s ∧
      s.up.written <+: s.up.sent ∧ s.down.written <+: s.down.sent := by
  have hm : Meets step Texts start resourceEndsFirst :=
    .of_forall (by simp [resourceEndsFirst, Texts]) start
  exact ⟨_, hm, rfl, carried_in_order _ _ hm rfl⟩

end Zecurity.Relay
