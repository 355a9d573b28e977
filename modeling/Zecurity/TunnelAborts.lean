import Zecurity.Runs

/-!
The mailbox of tunnel aborts for one shield and its delivery over Control streams
(`connector/src/agent_tunnel.rs`, `AbortMailbox` and `deliver_aborts`).

A post adds an abort to the list of pending ones, or sets the overflow mark where the list is
full. A delivery takes the list and then the mark, sends the aborts one by one on its stream's
queue, and puts the unsent rest back where the queue has closed. Deliveries of any number of
streams interleave with posts at every access.
-/

namespace Zecurity.TunnelAborts

open Function List Runs

structure TunnelClose where
  connectionId : String
  error : String

def maxTunnelsPerShield : ℕ := 256

def abortMailboxCap : ℕ := 2 * maxTunnelsPerShield

structure AbortMailbox where
  pending : List TunnelClose
  overflowed : Bool

namespace AbortMailbox

def default : AbortMailbox := ⟨[], false⟩

def ids (m : AbortMailbox) : List String := m.pending.map TunnelClose.connectionId

def post (m : AbortMailbox) (connectionId error : String) : AbortMailbox :=
  if m.pending.any fun c => c.connectionId == connectionId then m
  else if abortMailboxCap ≤ m.pending.length then { m with overflowed := true }
  else { m with pending := m.pending ++ [⟨connectionId, error⟩] }

/-- The first half of `take`. -/
def takePending (m : AbortMailbox) : List TunnelClose × AbortMailbox :=
  (m.pending, { m with pending := [] })

/-- The second half of `take`. -/
def swapOverflowed (m : AbortMailbox) : Bool × AbortMailbox :=
  (m.overflowed, { m with overflowed := false })

def restore (m : AbortMailbox) (unsent : List TunnelClose) : AbortMailbox :=
  { m with pending := unsent ++ m.pending }

/-- The capacity rule drops a post of this connection. -/
def Drops (m : AbortMailbox) (connectionId : String) : Prop :=
  connectionId ∉ m.ids ∧ abortMailboxCap ≤ m.pending.length

instance (m : AbortMailbox) (connectionId : String) : Decidable (m.Drops connectionId) :=
  inferInstanceAs (Decidable (_ ∧ _))

lemma post_cases (m : AbortMailbox) (cid error : String) :
    (¬ m.Drops cid ∧ cid ∈ (m.post cid error).ids ∧ (m.post cid error).overflowed = m.overflowed) ∨
    (m.Drops cid ∧ (m.post cid error).pending = m.pending ∧
      (m.post cid error).overflowed = true) := by
  unfold post
  by_cases hm : cid ∈ m.ids
  · obtain ⟨c, hc, hid⟩ := mem_map.1 hm
    have ha : (m.pending.any fun c => c.connectionId == cid) = true :=
      any_eq_true.2 ⟨c, hc, by simpa using hid⟩
    rw [if_pos ha]
    exact .inl ⟨fun h => h.1 hm, hm, rfl⟩
  · have ha : ¬ (m.pending.any fun c => c.connectionId == cid) = true := by
      intro h
      obtain ⟨c, hc, hid⟩ := any_eq_true.1 h
      exact hm (mem_map.2 ⟨c, hc, by simpa using hid⟩)
    rw [if_neg ha]
    by_cases hcap : abortMailboxCap ≤ m.pending.length
    · rw [if_pos hcap]
      exact .inr ⟨⟨hm, hcap⟩, rfl, rfl⟩
    · rw [if_neg hcap]
      exact .inl ⟨fun h => hcap h.2, by simp [ids], rfl⟩

lemma mem_ids_post {m : AbortMailbox} {id : String} (h : id ∈ m.ids)
    (cid error : String) : id ∈ (m.post cid error).ids := by
  unfold post
  split
  · exact h
  · split
    · exact h
    · simp only [ids, map_append, mem_append]
      exact .inl h

lemma overflowed_post {m : AbortMailbox} (h : m.overflowed = true)
    (cid error : String) : (m.post cid error).overflowed = true := by
  rcases m.post_cases cid error with ⟨-, -, heq⟩ | ⟨-, -, heq⟩
  · rw [heq, h]
  · exact heq

end AbortMailbox

inductive Drained
  | delivered
  | streamClosed
  | overflowed

/-- How far a call of `deliver_aborts` has come. -/
inductive Delivery
  | taken (list : List TunnelClose)
  | sending (list : List TunnelClose) (overflowed : Bool)
  /-- the queue has closed, the rest is not yet back in the mailbox -/
  | restoring (unsent : List TunnelClose)
  | returned (drained : Drained)

def Delivery.held : Delivery → List TunnelClose
  | .taken list | .sending list _ | .restoring list => list
  | .returned _ => []

/-- The delivery has taken the mark. -/
def Delivery.marked : Delivery → Bool
  | .sending _ overflowed => overflowed
  | _ => false

/-- What happened to the aborts, the newest first. -/
inductive Event
  | posted (connectionId : String) (dropped : Bool)
  | sent (connectionId : String)
  | returned (drained : Drained)

abbrev DeliveryId := ℕ

structure State where
  mailbox : AbortMailbox
  deliveries : DeliveryId → Option Delivery
  log : List Event

def init : State := ⟨.default, fun _ => none, []⟩

def State.setDelivery (s : State) (d : DeliveryId) (delivery : Delivery) : State :=
  { s with deliveries := update s.deliveries d (some delivery) }

inductive Action
  | post (connectionId error : String)
  | takePending (d : DeliveryId)
  | swapOverflowed (d : DeliveryId)
  | send (d : DeliveryId)
  | sendFails (d : DeliveryId)
  | restore (d : DeliveryId)
  | finish (d : DeliveryId)

def step (s : State) : Action → Option State
  | .post connectionId error =>
    some { s with
      mailbox := s.mailbox.post connectionId error
      log := .posted connectionId (decide (s.mailbox.Drops connectionId)) :: s.log }
  | .takePending d =>
    match s.deliveries d with
    | none =>
      let (list, mailbox) := s.mailbox.takePending
      some { s.setDelivery d (.taken list) with mailbox := mailbox }
    | some _ => none
  | .swapOverflowed d =>
    match s.deliveries d with
    | some (.taken list) =>
      let (overflowed, mailbox) := s.mailbox.swapOverflowed
      some { s.setDelivery d (.sending list overflowed) with mailbox := mailbox }
    | _ => none
  | .send d =>
    match s.deliveries d with
    | some (.sending (close :: list) overflowed) =>
      some { s.setDelivery d (.sending list overflowed) with
        log := .sent close.connectionId :: s.log }
    | _ => none
  | .sendFails d =>
    match s.deliveries d with
    | some (.sending (close :: list) _) => some (s.setDelivery d (.restoring (close :: list)))
    | _ => none
  | .restore d =>
    match s.deliveries d with
    | some (.restoring unsent) =>
      some { s.setDelivery d (.returned .streamClosed) with
        mailbox := s.mailbox.restore unsent
        log := .returned .streamClosed :: s.log }
    | _ => none
  | .finish d =>
    match s.deliveries d with
    | some (.sending [] overflowed) =>
      let drained := if overflowed then Drained.overflowed else .delivered
      some { s.setDelivery d (.returned drained) with log := .returned drained :: s.log }
    | _ => none

def Idle (s : State) : Prop :=
  ∀ d delivery, s.deliveries d = some delivery → ∃ drained, delivery = .returned drained

def Held (s : State) (connectionId : String) : Prop :=
  ∃ d delivery, s.deliveries d = some delivery ∧
    connectionId ∈ delivery.held.map TunnelClose.connectionId

def MarkTaken (s : State) : Prop :=
  ∃ d delivery, s.deliveries d = some delivery ∧ delivery.marked = true

/-- Where a post has gone: `later` is what happened after it. Its abort was sent, or is pending
or in the hands of a delivery; or the capacity rule dropped it, and then the mark is set or in
the hands of a delivery, or a delivery has returned `Overflowed`. -/
def Accounted (s : State) (later : List Event) (connectionId : String) (dropped : Bool) : Prop :=
  .sent connectionId ∈ later ∨ connectionId ∈ s.mailbox.ids ∨ Held s connectionId ∨
    (dropped = true ∧ (s.mailbox.overflowed = true ∨ MarkTaken s ∨
      .returned .overflowed ∈ later))

/-- The same where no delivery is under way. -/
def Settled (s : State) (later : List Event) (connectionId : String) (dropped : Bool) : Prop :=
  .sent connectionId ∈ later ∨ connectionId ∈ s.mailbox.ids ∨
    (dropped = true ∧ (s.mailbox.overflowed = true ∨ .returned .overflowed ∈ later))

/-- Every post so far is accounted for. -/
def NoneLost (s : State) : Prop :=
  ∀ later connectionId dropped earlier,
    s.log = later ++ Event.posted connectionId dropped :: earlier →
    Accounted s later connectionId dropped ∧ (Idle s → Settled s later connectionId dropped)

/-- A queue does not close on a delivery that has taken the mark. -/
def KeepsMark (s : State) : Action → Prop
  | .sendFails d => ∀ delivery ∈ s.deliveries d, delivery.marked = false
  | _ => True

instance (s : State) (a : Action) : Decidable (KeepsMark s a) := by
  cases a <;> unfold KeepsMark <;> infer_instance

/-! ### The accounts -/

/-- Every post so far has gone somewhere. -/
def Inv (s : State) : Prop :=
  ∀ later connectionId dropped earlier,
    s.log = later ++ Event.posted connectionId dropped :: earlier →
    Accounted s later connectionId dropped

variable {s s' : State} {d : DeliveryId} {id cid : String} {later : List Event} {dropped : Bool}
  {P : Delivery → Prop} {delivery : Delivery} {n : ℕ}

lemma inv_init : Inv init := by
  intro later cid dropped earlier h
  have hn : ([] : List Event) = later ++ Event.posted cid dropped :: earlier := h
  simp at hn

/-- What a step must do with aborts and with the mark for the accounts to be kept; `new` is
what it adds to the log. -/
structure Moves (s s' : State) (new : List Event) : Prop where
  pending : ∀ id ∈ s.mailbox.ids, id ∈ s'.mailbox.ids ∨ Held s' id
  held : ∀ id, Held s id → .sent id ∈ new ∨ id ∈ s'.mailbox.ids ∨ Held s' id
  mark : s.mailbox.overflowed = true → s'.mailbox.overflowed = true ∨ MarkTaken s'
  taken : MarkTaken s → MarkTaken s' ∨ .returned .overflowed ∈ new

lemma Moves.accounted {n} (h : Moves s s' n) (ha : Accounted s later id dropped) :
    Accounted s' (n ++ later) id dropped := by
  rcases ha with hs | hm | hh | ⟨hd, hmr⟩
  · exact .inl (mem_append_right n hs)
  · rcases h.pending id hm with hm | hh
    · exact .inr (.inl hm)
    · exact .inr (.inr (.inl hh))
  · rcases h.held id hh with hs | hm | hh
    · exact .inl (mem_append_left later hs)
    · exact .inr (.inl hm)
    · exact .inr (.inr (.inl hh))
  · refine .inr (.inr (.inr ⟨hd, ?_⟩))
    rcases hmr with hset | ht | hr
    · rcases h.mark hset with hset | ht
      · exact .inl hset
      · exact .inr (.inl ht)
    · rcases h.taken ht with ht | hr
      · exact .inr (.inl ht)
      · exact .inr (.inr (mem_append_left later hr))
    · exact .inr (.inr (mem_append_right n hr))

lemma Inv.of_moves (h : Inv s) (new : List Event) (hm : Moves s s' new)
    (hl : s'.log = new ++ s.log) (hn : ∀ cid dropped, .posted cid dropped ∉ new) : Inv s' := by
  intro later cid dropped earlier hs
  rw [hl] at hs
  rcases append_eq_append_iff.1 hs with ⟨rest, rfl, hr⟩ | ⟨rest, hr, ht⟩
  · exact hm.accounted (h rest cid dropped earlier hr)
  · cases rest with
    | nil =>
      cases hr
      have hold : s.log = [] ++ Event.posted cid dropped :: earlier := by simpa using ht.symm
      simpa using hm.accounted (h [] cid dropped earlier hold)
    | cons e rest =>
      obtain ⟨rfl, -⟩ : .posted cid dropped = e ∧ earlier = rest ++ s.log := by simpa using ht
      exact absurd (hr ▸ mem_append_right _ mem_cons_self) (hn cid dropped)

lemma exists_delivery (h : ∃ i x, s.deliveries i = some x ∧ P x) (d : DeliveryId)
    (delivery : Delivery) :
    (∃ x, s.deliveries d = some x ∧ P x) ∨
      ∃ i x, (s.setDelivery d delivery).deliveries i = some x ∧ P x := by
  obtain ⟨i, x, hx, hP⟩ := h
  by_cases hi : i = d
  · subst hi
    exact .inl ⟨x, hx, hP⟩
  · refine .inr ⟨i, x, ?_, hP⟩
    simp only [State.setDelivery, update_of_ne hi]
    exact hx

lemma self_delivery (s : State) (d : DeliveryId) (h : P delivery) :
    ∃ i x, (s.setDelivery d delivery).deliveries i = some x ∧ P x :=
  ⟨d, delivery, by simp [State.setDelivery], h⟩

lemma exists_delivery_of (h : ∃ i x, s.deliveries i = some x ∧ P x)
    (hd : ∀ x, s.deliveries d = some x → P x → P delivery) :
    ∃ i x, (s.setDelivery d delivery).deliveries i = some x ∧ P x := by
  rcases exists_delivery h d delivery with ⟨x, hx, hP⟩ | hk
  · exact self_delivery s d (hd x hx hP)
  · exact hk

/-! ### The steps -/

section

variable (h : Inv s)
include h

lemma inv_post {error : String} (hs : step s (.post cid error) = some s') : Inv s' := by
  cases hs
  intro later id dropped earlier hsp
  cases later with
  | nil =>
    -- the post itself
    obtain ⟨⟨rfl, rfl⟩, -⟩ : (cid = id ∧
        decide (s.mailbox.Drops cid) = dropped) ∧ s.log = earlier := by
      simpa using hsp
    rcases s.mailbox.post_cases cid error with ⟨-, hmem, -⟩ | ⟨hd, -, hm⟩
    · exact .inr (.inl hmem)
    · exact .inr (.inr (.inr ⟨by simpa using hd, .inl hm⟩))
  | cons e later =>
    obtain ⟨rfl, hold⟩ : .posted cid (decide (s.mailbox.Drops cid)) = e ∧
        s.log = later ++ .posted id dropped :: earlier := by
      simpa using hsp
    refine Moves.accounted (s := s) (n := [_])
      ⟨fun i hi => ?_, fun i hi => ?_, fun hset => ?_, .inl⟩ (h later id dropped earlier hold)
    · exact .inl (AbortMailbox.mem_ids_post hi cid error)
    · exact .inr (.inr hi)
    · exact .inl (AbortMailbox.overflowed_post hset cid error)

lemma inv_step {a} (hok : KeepsMark s a) (hs : step s a = some s') : Inv s' := by
  cases a with
  | post cid error => exact inv_post h hs
  | takePending d =>
    dsimp only [step] at hs
    split at hs <;> cases hs
    next hd =>
      have hn : ∀ x, s.deliveries d = some x → False := fun x hx => by
        rw [hd] at hx
        cases hx
      refine h.of_moves [] ⟨fun id hid => ?_, fun id hid => ?_, .inl, fun hmr => ?_⟩ rfl (by simp)
      · exact .inr (self_delivery s d hid)
      · exact .inr (.inr (exists_delivery_of hid fun x hx => (hn x hx).elim))
      · exact .inl (exists_delivery_of hmr fun x hx => (hn x hx).elim)
  | swapOverflowed d =>
    -- The mark moves from the mailbox to the delivery.
    dsimp only [step] at hs
    split at hs <;> cases hs
    next list hd =>
      refine h.of_moves [] ⟨fun _ => .inl, fun id hid => ?_, fun hset => ?_,
        fun hmr => ?_⟩ rfl (by simp)
      · refine .inr (.inr (exists_delivery_of hid fun x hx hmem => ?_))
        cases hd.symm.trans hx
        exact hmem
      · exact .inr (self_delivery s d hset)
      · refine .inl (exists_delivery_of hmr fun x hx hm => ?_)
        cases hd.symm.trans hx
        cases hm
  | send d =>
    dsimp only [step] at hs
    split at hs <;> cases hs
    next close list overflowed hd =>
      refine h.of_moves [.sent close.connectionId] ⟨fun _ => .inl, fun id hid => ?_,
        .inl, fun hmr => ?_⟩ rfl (by simp)
      · rcases exists_delivery hid d (.sending list overflowed) with ⟨x, hx, hmem⟩ | hk
        · cases hd.symm.trans hx
          rcases mem_cons.1 hmem with rfl | hmem
          · exact .inl mem_cons_self
          · exact .inr (.inr (self_delivery s d hmem))
        · exact .inr (.inr hk)
      · refine .inl (exists_delivery_of hmr fun x hx hm => ?_)
        cases hd.symm.trans hx
        exact hm
  | sendFails d =>
    -- The aborts are kept for the mailbox; a mark would be lost here.
    dsimp only [step] at hs
    split at hs <;> cases hs
    next close list overflowed hd =>
      refine h.of_moves [] ⟨fun _ => .inl, fun id hid => ?_, .inl, fun hmr => ?_⟩ rfl (by simp)
      · refine .inr (.inr (exists_delivery_of hid fun x hx hmem => ?_))
        cases hd.symm.trans hx
        exact hmem
      · refine .inl (exists_delivery_of hmr fun x hx hm => ?_)
        rw [hok x hx] at hm
        cases hm
  | restore d =>
    dsimp only [step] at hs
    split at hs <;> cases hs
    next unsent hd =>
      refine h.of_moves [.returned .streamClosed] ⟨fun id hid => ?_, fun id hid => ?_,
        .inl, fun hmr => ?_⟩ rfl (by simp)
      · refine .inl ?_
        simp only [AbortMailbox.ids, AbortMailbox.restore, map_append, mem_append]
        exact .inr hid
      · rcases exists_delivery hid d (.returned .streamClosed) with ⟨x, hx, hmem⟩ | hk
        · cases hd.symm.trans hx
          refine .inr (.inl ?_)
          simp only [AbortMailbox.ids, AbortMailbox.restore, map_append, mem_append]
          exact .inl hmem
        · exact .inr (.inr hk)
      · refine .inl (exists_delivery_of hmr fun x hx hm => ?_)
        cases hd.symm.trans hx
        cases hm
  | finish d =>
    dsimp only [step] at hs
    split at hs <;> cases hs
    next overflowed hd =>
      refine h.of_moves [.returned (if overflowed then .overflowed else .delivered)]
        ⟨fun _ => .inl, fun id hid => ?_, .inl, fun hmr => ?_⟩ rfl (by simp)
      · refine .inr (.inr (exists_delivery_of hid fun x hx hmem => ?_))
        cases hd.symm.trans hx
        cases hmem
      · rcases exists_delivery hmr d
          (.returned (if overflowed then .overflowed else .delivered)) with ⟨x, hx, hm⟩ | hk
        · -- the delivery with the mark returns `Overflowed`
          cases hd.symm.trans hx
          obtain rfl : overflowed = true := hm
          exact .inr mem_cons_self
        · exact .inl hk

end

lemma Accounted.settled (h : Accounted s later cid dropped) (hi : Idle s) :
    Settled s later cid dropped := by
  rcases h with hs | hmem | ⟨d, x, hx, hid⟩ | ⟨hd, hmr⟩
  · exact .inl hs
  · exact .inr (.inl hmem)
  · obtain ⟨drained, rfl⟩ := hi d x hx
    cases hid
  · refine .inr (.inr ⟨hd, ?_⟩)
    rcases hmr with hset | ⟨d, x, hx, hm⟩ | hr
    · exact .inl hset
    · obtain ⟨drained, rfl⟩ := hi d x hx
      cases hm
    · exact .inr hr

/-- **No abort is lost**, in every run in which no queue closes on a delivery that has taken
the overflow mark. -/
theorem noneLost_of_keepsMark {acts : List Action} {s : State}
    (hok : Meets step KeepsMark init acts) (hexec : exec step init acts = some s) : NoneLost s := by
  have hi : Inv s := exec_inv_of_meets (fun _ _ _ h hok hs => inv_step h hok hs) inv_init hok hexec
  intro later cid dropped old hsp
  have ha := hi later cid dropped old hsp
  exact ⟨ha, ha.settled⟩

/-- A post that is sent, one that is given back, and a delivery of the latter. -/
def twoStreams : List Action :=
  [.post "a" "session ended", .takePending 0, .post "b" "session ended", .swapOverflowed 0,
    .send 0, .finish 0, .takePending 1, .swapOverflowed 1, .sendFails 1, .restore 1,
    .takePending 2, .swapOverflowed 2, .send 2, .finish 2]

theorem twoStreams_noneLost : ∃ s, Meets step KeepsMark init twoStreams ∧
    exec step init twoStreams = some s ∧ NoneLost s := by
  have hok : Meets step KeepsMark init twoStreams := by decide
  exact ⟨_, hok, rfl, noneLost_of_keepsMark hok rfl⟩

/-! ### A mark that is lost -/

/-- As many connection ids as one likes. -/
def filler (i : ℕ) : String := String.ofList (List.replicate i 'x')

lemma filler_inj {i j} (h : filler i = filler j) : i = j := by
  have hc := congrArg (fun t : String => t.toList.length) h
  simpa [filler] using hc

def fillerClose (i : ℕ) : TunnelClose := ⟨filler i, "session ended"⟩

def filled (n : ℕ) : AbortMailbox := ⟨(List.range n).map fillerClose, false⟩

lemma filler_notMem_filled (n : ℕ) : filler n ∉ (filled n).ids := by
  intro hm
  obtain ⟨c, hc, hid⟩ := mem_map.1 hm
  obtain ⟨i, hi, rfl⟩ := mem_map.1 hc
  have heq : i = n := filler_inj hid
  exact absurd (mem_range.1 hi) (by omega)

def filledLog (n : ℕ) : List Event :=
  ((List.range n).map fun i => Event.posted (filler i) false).reverse

def fill (n : ℕ) : List Action :=
  (List.range n).map fun i => .post (filler i) "session ended"

lemma filled_post (h : n < abortMailboxCap) :
    (filled n).post (filler n) "session ended" = filled (n + 1) := by
  have ha : ¬ ((filled n).pending.any fun c => c.connectionId == filler n) = true := by
    intro ha
    obtain ⟨c, hc, hid⟩ := any_eq_true.1 ha
    exact filler_notMem_filled n (mem_map.2 ⟨c, hc, by simpa using hid⟩)
  have hl : (filled n).pending.length = n := by simp [filled]
  unfold AbortMailbox.post
  rw [if_neg ha, if_neg (by omega)]
  simp [filled, range_succ, fillerClose]

lemma exec_fill (h : n ≤ abortMailboxCap) :
    exec step init (fill n) = some ⟨filled n, fun _ => none, filledLog n⟩ := by
  induction n with
  | zero => rfl
  | succ n ih =>
    have hs : fill (n + 1) = fill n ++ [.post (filler n) "session ended"] := by
      simp [fill, range_succ]
    have hdr : ¬ (filled n).Drops (filler n) := fun hd => by
      have hc : abortMailboxCap ≤ n := by simpa [filled] using hd.2
      omega
    rw [hs, exec_append, ih (by omega)]
    simp [step, hdr, filled_post (by omega : n < abortMailboxCap), filledLog, range_succ]

/-- A delivery whose queue is closed. -/
def closedDelivery : List Action := [.takePending 0, .swapOverflowed 0, .sendFails 0, .restore 0]

lemma exec_closedDelivery (m : AbortMailbox) (log : List Event) (h : 0 < m.pending.length) :
    exec step ⟨m, fun _ => none, log⟩ closedDelivery =
      some ⟨⟨m.pending, false⟩, update (fun _ => none) 0 (some (.returned .streamClosed)),
        .returned .streamClosed :: log⟩ := by
  obtain ⟨c, rest, hp⟩ := exists_cons_of_length_pos h
  simp only [closedDelivery, exec_cons, exec_nil, Option.bind_some, step, hp,
    AbortMailbox.takePending, AbortMailbox.swapOverflowed, AbortMailbox.restore,
    State.setDelivery, update_self, update_idem, append_nil]

lemma exec_dropped {m} (log : List Event) (hd : m.Drops id) (h : 0 < m.pending.length) :
    exec step ⟨m, fun _ => none, log⟩ (.post id "session ended" :: closedDelivery) =
      some ⟨⟨m.pending, false⟩, update (fun _ => none) 0 (some (.returned .streamClosed)),
        .returned .streamClosed :: .posted id true :: log⟩ := by
  have hps : (m.post id "session ended").pending = m.pending := by
    rcases m.post_cases id "session ended" with ⟨hk, -⟩ | ⟨-, hp, -⟩
    · exact absurd hd hk
    · exact hp
  simp only [exec_cons, step, Option.bind_some, hd, decide_true]
  rw [exec_closedDelivery _ _ (hps ▸ h), hps]

/-- One post more than the mailbox holds, and a delivery whose queue is closed. -/
def markLost : List Action :=
  fill abortMailboxCap ++ .post (filler abortMailboxCap) "session ended" :: closedDelivery

lemma filled_drops : (filled abortMailboxCap).Drops (filler abortMailboxCap) :=
  ⟨filler_notMem_filled abortMailboxCap, by simp [filled]⟩

/-- The state in which the mark is lost. -/
def lost : State where
  mailbox := ⟨(filled abortMailboxCap).pending, false⟩
  deliveries := update (fun _ => none) 0 (some (.returned .streamClosed))
  log := .returned .streamClosed :: .posted (filler abortMailboxCap) true ::
    filledLog abortMailboxCap

lemma exec_markLost : exec step init markLost = some lost := by
  have hl : 0 < (filled abortMailboxCap).pending.length := by
    simp [filled, abortMailboxCap, maxTunnelsPerShield]
  rw [markLost, exec_append, exec_fill (Nat.le_refl _), Option.bind_some,
    exec_dropped _ filled_drops hl, lost]

/-- The post that was dropped is in no list, the mark is gone, and no delivery returned
`Overflowed`. -/
theorem markLost_loses : ∃ s, exec step init markLost = some s ∧ Idle s ∧ ¬ NoneLost s := by
  have hi : Idle lost := by
    intro d delivery hd
    simp only [lost, update_apply] at hd
    split at hd
    · exact ⟨.streamClosed, (Option.some.inj hd).symm⟩
    · cases hd
  refine ⟨lost, exec_markLost, hi, fun hn => ?_⟩
  have hs := (hn [.returned .streamClosed] (filler abortMailboxCap) true
    (filledLog abortMailboxCap) rfl).2 hi
  rcases hs with hsn | hm | ⟨-, hset | hr⟩
  · simp at hsn
  · have hids : lost.mailbox.ids = (filled abortMailboxCap).ids := by
      simp only [lost, AbortMailbox.ids]
    rw [hids] at hm
    exact filler_notMem_filled abortMailboxCap hm
  · cases hset
  · simp at hr

end Zecurity.TunnelAborts
