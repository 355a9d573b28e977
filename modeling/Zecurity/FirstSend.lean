import Mathlib.Order.MinMax
import Zecurity.AckDeadline

/-!
Which instant the tracker holds for a report that is sent more than once.

`record_sent` inserts the send time only if the sequence number has none, and then prunes
what is at least `H` old. A pruned number can be sent again, since `seq_for_replacement`
hands it out as long as it is the outstanding one, and it is then recorded anew.
-/

namespace Zecurity.Authorization

open Option

/-- The instant of a call `record_sent(k, ·)`, for the sequence number `k`. -/
def sendOf (k : UInt64) : Op → Option Instant
  | .recordSent seq now => if seq = k then some now else none
  | _ => none

/-- The instant of the first call `record_sent(k, ·)` of the run. -/
def firstSend (ops : List Op) (k : UInt64) : Option Instant := ops.findSome? (sendOf k)

/-- **First send wins**, for the whole run: at every point of it a recorded send time is that
of the first send; and an accepted acknowledgement leaves the deadline where it was, or sets
one no later than the first send plus `H`. -/
structure FirstSendWins (H : Duration) (ops : List Op) : Prop where
  sent : ∀ pre post k t, ops = pre ++ post → (run (new H) pre).sentAt k = some t →
    firstSend pre k = some t
  deadline : ∀ pre k capable now post d, ops = pre ++ Op.onAck k capable now :: post →
    ((run (new H) pre).onAck k capable now).2 = .ok () →
    ((run (new H) pre).onAck k capable now).1.deadline = some d →
    (run (new H) pre).deadline = some d ∨ ∃ t, firstSend pre k = some t ∧ d ≤ t + H

/-- The call `record_sent(k, now)` after `pre` is no send of `k` after the first, or it finds
an entry for `k`. (A repetition of the first instant, the number 0, which is never recorded,
and a window of length 0, which keeps nothing, are harmless.) -/
def Kept (H : Duration) (pre : List Op) (k : UInt64) (now : Instant) : Prop :=
  ∀ t₀, firstSend pre k = some t₀ → t₀ ≠ now → k ≠ 0 → 0 < H →
    (run (new H) pre).sentAt k ≠ none

variable {t : AckTracker} {k : UInt64} {now : Instant}

lemma firstSend_append (ops ops' : List Op) (k : UInt64) :
    firstSend (ops ++ ops') k = (firstSend ops k).or (firstSend ops' k) := by
  simp [firstSend, List.findSome?_append]

lemma firstSend_singleton (op : Op) (k : UInt64) : firstSend [op] k = sendOf k op := by
  simp only [firstSend, List.findSome?_cons, List.findSome?_nil]
  cases sendOf k op <;> rfl

variable {H : Duration} {s : Instant} {op : Op}

lemma recordSent_sent {seq} (h : (t.recordSent seq now).sent k = some s) :
    t.sent k = some s ∨ (k = seq ∧ seq ≠ 0 ∧ t.sent k = none ∧ s = now ∧ 0 < t.freshness) := by
  unfold AckTracker.recordSent at h
  split at h
  · exact .inl h
  · next hz =>
    simp only [filter_eq_some_iff, decide_eq_true_eq] at h
    obtain ⟨h, hlt⟩ := h
    split at h
    · next hk =>
      rcases hs : t.sent k with _ | s'
      · obtain rfl : now = s := by simpa [hs] using h
        exact .inr ⟨hk, hz, rfl, rfl, Nat.pos_of_lt_add_right hlt⟩
      · left; simpa [hs] using h
    · exact .inl h

lemma step_sent (hop : sendOf k op = none) (h : (step t op).sent k = some s) :
    t.sent k = some s := by
  revert h
  refine step_rule (P := fun u => u.sent k = some s → t.sent k = some s) op id ?_ ?_ ?_ ?_ ?_ ?_
  · exact fun _ _ h => h
  · exact fun _ _ h => h
  · exact fun _ _ h => h
  · exact fun _ _ h => h
  · rintro seq now rfl h
    rcases recordSent_sent h with h | ⟨rfl, -⟩
    · exact h
    · simp [sendOf] at hop
  · intro seq cap now s' u _ _ hu h
    exact hu (filter_eq_some_iff.1 h).1

/-- **One call**: where every recorded time is that of a first send, and the call is not a
re-send of a number whose entry is gone, the same holds after it. -/
lemma sent_firstSend_step {pre}
    (ih : ∀ k t, (run (new H) pre).sentAt k = some t → firstSend pre k = some t)
    (hkp : ∀ k now, op = .recordSent k now → Kept H pre k now) (k : UInt64) (t : Instant)
    (h : (step (run (new H) pre) op).sentAt k = some t) : firstSend (pre ++ [op]) k = some t := by
  rw [firstSend_append, firstSend_singleton]
  rcases hop : sendOf k op with _ | now
  · rw [ih k t (step_sent hop h)]; rfl
  · obtain rfl : op = .recordSent k now := by
      cases op with
      | recordSent seq now' =>
        simp only [sendOf] at hop
        split at hop
        · next hk => rw [hk, some.inj hop]
        · cases hop
      | _ => simp [sendOf] at hop
    rcases recordSent_sent h with hold | ⟨-, hz, hn, rfl, hH⟩
    · rw [ih k t hold]; rfl
    · -- inserted anew: the first send of `k`, or `Kept` is violated
      rcases hf : firstSend pre k with _ | t0
      · rfl
      · by_cases heq : t0 = t
        · rw [heq]; rfl
        · rw [run_freshness] at hH
          exact absurd hn (hkp k t rfl t0 hf heq hz hH)

lemma sent_firstSend_run (ops : List Op)
    (hk : ∀ pre k now post, ops = pre ++ Op.recordSent k now :: post → Kept H pre k now) :
    ∀ k t, (run (new H) ops).sentAt k = some t → firstSend ops k = some t := by
  induction ops using List.reverseRecOn with
  | nil => intro k t h; cases h
  | append_singleton ops op ih =>
    intro k t h
    rw [run_append, run_cons, run_nil] at h
    refine sent_firstSend_step (ih fun pre k now post heq => ?_) (fun k now heq => ?_) k t h
    · exact hk pre k now (post ++ [op]) (by simp [heq])
    · exact hk ops k now [] (by simp [heq])

lemma onAck_deadline {cap d} (hok : (t.onAck k cap now).2 = .ok ())
    (hd : (t.onAck k cap now).1.deadline = some d) :
    t.deadline = some d ∨ ∃ s, t.sentAt k = some s ∧ d = s + t.freshness := by
  rcases t.onAck_cases k cap now with ⟨why, hr⟩ | ⟨s, hr, -, -, hs, -⟩
  · simp [hr] at hok
  · rw [hr] at hd
    simp only [AckTracker.accept, AckTracker.transition, ServingState.isOpen, if_true,
      AckTracker.expire_freshness, some.injEq] at hd
    rcases hold : (t.expire now).deadline with _ | old
    · exact .inr ⟨s, hs, by simpa [hold] using hd.symm⟩
    · rw [hold, elim_some] at hd
      rcases max_choice old (s + t.freshness) with hm | hm <;> rw [hm] at hd
      · exact .inl (expire_deadline (by rw [hold, hd]))
      · exact .inr ⟨s, hs, hd.symm⟩

lemma recordSent_anew (hz : k ≠ 0) (hH : 0 < t.freshness) (hn : t.sent k = none) :
    (t.recordSent k now).sent k = some now := by
  simp only [AckTracker.recordSent, if_neg hz, if_true, hn, getD_none, filter_some]
  simp [hH]

/-- **First send wins exactly if no re-send finds its entry gone.** -/
theorem firstSendWins_iff (H : Duration) (ops : List Op) :
    FirstSendWins H ops ↔
      ∀ pre k now post, ops = pre ++ Op.recordSent k now :: post → Kept H pre k now := by
  constructor
  · rintro hw pre k now post rfl t0 hf hne hz hH hn
    have hH' : 0 < (run (new H) pre).freshness := by rw [run_freshness]; exact hH
    have hsn := hw.sent (pre ++ [Op.recordSent k now]) post k now (by simp)
      (by rw [run_append]; exact recordSent_anew hz hH' hn)
    rw [firstSend_append, hf] at hsn
    exact hne (some.inj hsn)
  · intro hk
    have hsn : ∀ pre post, ops = pre ++ post → ∀ k t,
        (run (new H) pre).sentAt k = some t → firstSend pre k = some t := by
      rintro pre post rfl
      exact sent_firstSend_run pre fun pre' k now post' heq =>
        hk pre' k now (post' ++ post) (by simp [heq])
    refine ⟨fun pre post k t heq => hsn pre post heq k t, ?_⟩
    intro pre k cap now post d heq hok hd
    rcases onAck_deadline hok hd with hold | ⟨s, hs, rfl⟩
    · exact .inl hold
    · exact .inr ⟨s, hsn pre _ heq k s hs, by rw [run_freshness]; exact le_rfl⟩

/-- A report sent at 0 and never acknowledged, with `H` = 15: its replacement at 15 prunes
it, the replacement at 20 records it anew, and the acknowledgement at 21 sets the deadline
35. -/
theorem resend_after_pruning :
    let ops : List Op := [.nextSeq, .recordSent 1 0, .seqForReplacement, .recordSent 1 15,
      .seqForReplacement, .recordSent 1 20]
    firstSend ops 1 = some 0 ∧ (run (new 15) ops).sentAt 1 = some 20 ∧
    (run (new 15) (ops ++ [Op.onAck 1 true 21])).publish.deadline = some 35 ∧
    ¬ FirstSendWins 15 ops := by
  refine ⟨by decide, by decide, by decide, fun hw => ?_⟩
  have hf := hw.sent _ [] 1 20 (List.append_nil _).symm (by decide)
  revert hf
  decide

end Zecurity.Authorization
