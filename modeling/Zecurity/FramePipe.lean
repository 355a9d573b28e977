import Mathlib.Data.List.Infix

/-!
One direction of a relayed byte stream: a task reads the source in chunks and puts frames into a
bounded queue; the queue is drained onto an ordered stream; a sink takes the frames off the
stream and writes their bytes.

The source ends at an end of file or with an error, and the task announces either with a last
frame, unless it is stopped. A stream ends when the task has returned and the queue is drained, or
with an error, which discards what is queued, or breaks, which discards what is on the way.
-/

namespace Zecurity.FramePipe

open List

variable {α : Type*}

inductive Frame (α : Type*)
  | data (bytes : List α)
  /-- the last frame; an empty text is a clean end -/
  | done (error : String)
  deriving DecidableEq

inductive Closing
  | eof
  | error (text : String)

inductive Task (α : Type*)
  | reading
  | sending (frame : Frame α)
  | returned

inductive Msg (α : Type*)
  | frame (f : Frame α)
  | finished
  | failed

inductive Sink (α : Type*)
  | receiving
  | writing (rest : List α)
  | closed
  deriving DecidableEq

def Frame.bytes : Frame α → List α
  | .data bytes => bytes
  | .done _ => []

def Frame.isDone : Frame α → Bool
  | .data _ => false
  | .done _ => true

def Task.bytes : Task α → List α
  | .sending frame => frame.bytes
  | _ => []

def Frame.next : Frame α → Task α
  | .data _ => .reading
  | .done _ => .returned

/-- The sink when bytes are left to write. -/
def Sink.after : List α → Sink α
  | [] => .receiving
  | rest => .writing rest

/-- `sent`, `queued` and `taken` record what the source sent, what was ever queued and what the
sink took; `cut` is whether the stream ended without a last frame and without an error. -/
structure Pipe (α : Type*) where
  sent : List α
  pending : List α
  closing : Option Closing
  task : Task α
  queue : List (Frame α)
  isOpen : Bool
  wire : List (Msg α)
  sink : Sink α
  written : List α
  queued : List (Frame α)
  taken : List (Frame α)
  cut : Bool

def Pipe.start : Pipe α :=
  { sent := [], pending := [], closing := none, task := .reading, queue := [], isOpen := true,
    wire := [], sink := .receiving, written := [], queued := [], taken := [], cut := false }

inductive Op (α : Type*)
  | source (bytes : List α)
  | close (closing : Closing)
  | read (n : ℕ)
  | readEnd
  | send
  | sendFails
  | stop
  | pull
  | finish
  | fail
  | lose (kept : ℕ)
  | receive
  | write (n : ℕ)
  | abandon

def Pipe.take (p : Pipe α) (rest : List (Msg α)) : Msg α → Pipe α
  | .frame (.data bytes) =>
    { p with wire := rest, taken := p.taken ++ [Frame.data bytes], sink := .writing bytes }
  | .frame (.done error) =>
    { p with wire := rest, taken := p.taken ++ [Frame.done error], sink := .closed }
  | .finished | .failed => { p with wire := rest, sink := .closed }

/-- One step of a pipe with chunks of at most `chunk` bytes and a queue of `cap` frames. -/
def Pipe.step (chunk cap : ℕ) (p : Pipe α) : Op α → Option (Pipe α)
  | .source bytes =>
    if p.closing.isNone then
      some { p with sent := p.sent ++ bytes, pending := p.pending ++ bytes }
    else none
  | .close closing => if p.closing.isNone then some { p with closing := some closing } else none
  | .read n =>
    match p.task with
    | .reading =>
      if 0 < n ∧ n ≤ chunk ∧ n ≤ p.pending.length then
        some { p with task := .sending (.data (p.pending.take n)), pending := p.pending.drop n }
      else none
    | _ => none
  | .readEnd =>
    match p.task, p.closing with
    | .reading, some .eof =>
      if p.pending.isEmpty then some { p with task := .sending (.done "") } else none
    | .reading, some (.error text) => some { p with task := .sending (.done text) }
    | _, _ => none
  | .send =>
    match p.task with
    | .sending frame =>
      if p.queue.length < cap then
        some { p with
          task := frame.next
          queue := p.queue ++ [frame]
          queued := p.queued ++ [frame] }
      else none
    | _ => none
  | .sendFails =>
    match p.task with
    | .sending _ => if p.isOpen then none else some { p with task := .returned }
    | _ => none
  | .stop =>
    match p.task with
    | .returned => none
    | _ => some { p with task := .returned }
  | .pull =>
    match p.queue with
    | frame :: rest =>
      if p.isOpen then some { p with queue := rest, wire := p.wire ++ [Msg.frame frame] } else none
    | [] => none
  | .finish =>
    match p.task, p.queue with
    | .returned, [] =>
      if p.isOpen then
        some { p with
          isOpen := false
          wire := p.wire ++ [Msg.finished]
          cut := p.cut || !p.queued.any Frame.isDone }
      else none
    | _, _ => none
  | .fail =>
    if p.isOpen then some { p with isOpen := false, wire := p.wire ++ [Msg.failed] } else none
  | .lose kept => some { p with isOpen := false, wire := p.wire.take kept ++ [Msg.failed] }
  | .receive =>
    match p.sink, p.wire with
    | .receiving, msg :: rest => some (p.take rest msg)
    | _, _ => none
  | .write n =>
    match p.sink with
    | .writing rest =>
      if n ≤ rest.length then
        some { p with written := p.written ++ rest.take n, sink := .after (rest.drop n) }
      else none
    | _ => none
  | .abandon => some { p with sink := .closed }

variable {frame : Frame α} {op : Op α}

lemma Pipe.take_frame (p : Pipe α) (rest : List (Msg α)) (msg : Msg α) :
    (p.take rest msg).queued = p.queued ∧ (p.take rest msg).task = p.task ∧
      (p.take rest msg).isOpen = p.isOpen ∧ (p.take rest msg).cut = p.cut ∧
      p.taken <+: (p.take rest msg).taken := by
  unfold Pipe.take
  split <;> simp

/-! ### Frames and their bytes -/

def dataOf (frames : List (Frame α)) : List α := frames.flatMap Frame.bytes

def framesOf (wire : List (Msg α)) : List (Frame α) :=
  wire.filterMap fun
    | .frame f => some f
    | _ => none

@[simp] lemma dataOf_append (a b : List (Frame α)) : dataOf (a ++ b) = dataOf a ++ dataOf b :=
  flatMap_append

@[simp] lemma dataOf_singleton (f : Frame α) : dataOf [f] = f.bytes := by simp [dataOf]

@[simp] lemma framesOf_nil : framesOf ([] : List (Msg α)) = [] := rfl

@[simp] lemma framesOf_append (a b : List (Msg α)) : framesOf (a ++ b) = framesOf a ++ framesOf b :=
  filterMap_append

@[simp] lemma framesOf_cons_frame (f : Frame α) (wire : List (Msg α)) :
    framesOf (.frame f :: wire) = f :: framesOf wire := rfl

@[simp] lemma framesOf_cons_finished (wire : List (Msg α)) :
    framesOf (.finished :: wire) = framesOf wire := rfl

@[simp] lemma framesOf_cons_failed (wire : List (Msg α)) :
    framesOf (.failed :: wire) = framesOf wire := rfl

lemma framesOf_take_prefix (wire : List (Msg α)) (k : ℕ) :
    framesOf (wire.take k) <+: framesOf wire := (List.take_prefix k wire).filterMap _

/-! ### The invariant -/

/-- The source's bytes are in the queued frames, with the task and pending, and the last frame
tells how the source ended. -/
structure Sent (p : Pipe α) : Prop where
  live : p.task ≠ .returned →
    dataOf p.queued ++ p.task.bytes ++ p.pending = p.sent ∧ ∀ e, .done e ∉ p.queued
  within : dataOf p.queued <+: p.sent
  last : ∀ left e right, p.queued = left ++ Frame.done e :: right → right = []
  clean : .done "" ∈ p.queued → p.closing = some .eof ∧ dataOf p.queued = p.sent
  cleanNext : p.task = .sending (.done "") → p.closing = some .eof ∧ p.pending = []
  texts : p.closing ≠ some (.error "")

/-- The frames arrive in order, and a stream that ends well has carried the last one, unless it
was cut. -/
structure Carried (p : Pipe α) : Prop where
  ordered : p.taken ++ framesOf p.wire <+: p.queued
  unsent : p.isOpen = true → p.taken ++ framesOf p.wire ++ p.queue = p.queued
  unfinished : p.isOpen = true → .finished ∉ p.wire
  trailing : ∀ left right, p.wire = left ++ Msg.finished :: right → framesOf right = []
  announced : .finished ∈ p.wire → p.cut = true ∨ ∃ e, .done e ∈ p.taken ++ framesOf p.wire

/-- What is written are the bytes of the frames taken. -/
structure Delivered (p : Pipe α) : Prop where
  receiving : p.sink = .receiving → p.written = dataOf p.taken
  writing : ∀ rest, p.sink = .writing rest → p.written ++ rest = dataOf p.taken
  took : ∀ e, .done e ∈ p.taken → p.sink = .closed ∧ p.written = dataOf p.taken

structure Inv (p : Pipe α) : Prop where
  sent : Sent p
  carried : Carried p
  delivered : Delivered p

lemma inv_start : Inv (Pipe.start : Pipe α) where
  sent := ⟨fun _ => ⟨rfl, fun _ => not_mem_nil⟩, prefix_rfl,
    fun left _ _ h => (by cases left <;> cases h), nofun, nofun, nofun⟩
  carried := ⟨prefix_rfl, fun _ => rfl, fun _ => not_mem_nil,
    fun left _ h => (by cases left <;> cases h), nofun⟩
  delivered := ⟨fun _ => rfl, nofun, nofun⟩

/-- **A clean last frame that was taken**: the source reached its end of file, and all it sent is
written. -/
theorem Inv.complete {p : Pipe α} (hi : Inv p) (h : .done "" ∈ p.taken) :
    p.closing = some .eof ∧ p.written = p.sent := by
  obtain ⟨rest, hr⟩ : p.taken <+: p.queued := (prefix_append _ _).trans hi.carried.ordered
  obtain ⟨left, right, hs⟩ := append_of_mem h
  -- nothing is queued after the last frame, so everything queued was taken
  have hn : right ++ rest = [] := by
    refine hi.sent.last left "" (right ++ rest) ?_
    rw [← hr, hs, append_assoc, cons_append]
  have ha : p.taken = p.queued := by rw [← hr, (append_eq_nil_iff.1 hn).2, append_nil]
  obtain ⟨he, hsn⟩ := hi.sent.clean (ha ▸ h)
  refine ⟨he, ?_⟩
  rw [(hi.delivered.took "" h).2, ha, hsn]

variable {msg : Msg α} {rest wire : List (Msg α)}

/-- **A stream whose end is taken before a last frame** was cut. -/
theorem Inv.cut_of_finished {p} (hi : Inv p) (hs : p.sink = .receiving)
    (hw : p.wire = .finished :: rest) : p.cut = true := by
  have hn : framesOf rest = [] := hi.carried.trailing [] rest hw
  rcases hi.carried.announced (by simp [hw]) with hc | ⟨e, hd⟩
  · exact hc
  · rw [hw, framesOf_cons_finished, hn, append_nil] at hd
    cases hs.symm.trans (hi.delivered.took e hd).1

/-! ### One step -/

lemma last_append {queued left right : List (Frame α)} {f : Frame α} {e : String}
    (hn : ∀ e, .done e ∉ queued) (h : queued ++ [f] = left ++ Frame.done e :: right) :
    right = [] := by
  rcases eq_nil_or_concat right with rfl | ⟨right', last, rfl⟩
  · rfl
  · rw [concat_eq_append, ← cons_append, ← append_assoc] at h
    obtain ⟨hq, -⟩ := append_inj' h rfl
    exact absurd (by rw [hq]; simp) (hn e)

section Steps

variable {p p' : Pipe α}

lemma Sent.reading (h : Sent p) (ht : p.task = .reading) :
    dataOf p.queued ++ p.pending = p.sent ∧ ∀ e, .done e ∉ p.queued := by
  simpa [ht, Task.bytes] using h.live (by simp [ht])

lemma Sent.sending (h : Sent p) (ht : p.task = .sending frame) :
    dataOf p.queued ++ frame.bytes ++ p.pending = p.sent ∧ ∀ e, .done e ∉ p.queued := by
  simpa [ht, Task.bytes] using h.live (by simp [ht])

section

variable (hi : Inv p)
include hi

lemma Inv.source (ho : p.closing = none) (bytes : List α) :
    Inv { p with sent := p.sent ++ bytes, pending := p.pending ++ bytes } where
  sent := { hi.sent with
      live := fun h => by
        obtain ⟨heq, hn⟩ := hi.sent.live h
        exact ⟨by rw [← append_assoc, heq], hn⟩
      within := hi.sent.within.trans (prefix_append _ _)
      clean := fun h => (by cases ho.symm.trans (hi.sent.clean h).1)
      cleanNext := fun h => (by cases ho.symm.trans (hi.sent.cleanNext h).1) }
  carried := { hi.carried with }
  delivered := { hi.delivered with }

lemma Inv.close (ho : p.closing = none) {closing} (ht : closing ≠ .error "") :
    Inv { p with closing := some closing } where
  sent := { hi.sent with
      clean := fun h => (by cases ho.symm.trans (hi.sent.clean h).1)
      cleanNext := fun h => (by cases ho.symm.trans (hi.sent.cleanNext h).1)
      texts := fun h => ht (Option.some.inj h) }
  carried := { hi.carried with }
  delivered := { hi.delivered with }

lemma Inv.read (ht : p.task = .reading) (n : ℕ) :
    Inv { p with
      task := .sending (.data (p.pending.take n))
      pending := p.pending.drop n } where
  sent := { hi.sent with
      live := fun _ => by
        obtain ⟨heq, hn⟩ := hi.sent.reading ht
        refine ⟨?_, hn⟩
        simp only [Task.bytes, Frame.bytes]
        rw [append_assoc, take_append_drop, heq]
      cleanNext := by simp }
  carried := { hi.carried with }
  delivered := { hi.delivered with }

lemma Inv.readEnd (ht : p.task = .reading) {error}
    (he : error = "" → p.closing = some .eof ∧ p.pending = []) :
    Inv { p with task := .sending (.done error) } where
  sent := { hi.sent with
      live := fun _ => by
        obtain ⟨heq, hn⟩ := hi.sent.reading ht
        refine ⟨?_, hn⟩
        simp only [Task.bytes, Frame.bytes]
        rw [append_nil, heq]
      cleanNext := fun h => he (by cases h; rfl) }
  carried := { hi.carried with }
  delivered := { hi.delivered with }

lemma Inv.send (ht : p.task = .sending frame) :
    Inv { p with
      task := frame.next
      queue := p.queue ++ [frame]
      queued := p.queued ++ [frame] } := by
  obtain ⟨heq, hn⟩ := hi.sent.sending ht
  have hd : dataOf (p.queued ++ [frame]) ++ p.pending = p.sent := by
    rw [dataOf_append, dataOf_singleton, heq]
  refine ⟨⟨?_, ?_, ?_, ?_, ?_, hi.sent.texts⟩, ?_, { hi.delivered with }⟩
  · intro hl
    cases frame with
    | data bytes =>
      simp only [Frame.next, Task.bytes]
      exact ⟨by rw [append_nil, hd], by simp [hn]⟩
    | done error => exact absurd rfl hl
  · exact ⟨p.pending, hd⟩
  · exact fun left e right h => last_append hn h
  · intro hm
    rcases mem_append.1 hm with hm | hm
    · exact absurd hm (hn "")
    · obtain rfl := mem_singleton.1 hm
      obtain ⟨he, hp⟩ := hi.sent.cleanNext ht
      refine ⟨he, ?_⟩
      rw [hp, append_nil] at hd
      exact hd
  · intro h
    cases frame <;> cases h
  · exact
      { hi.carried with
        ordered := hi.carried.ordered.trans (prefix_append _ _)
        unsent := fun ho => by rw [← append_assoc, hi.carried.unsent ho] }

lemma Inv.stop : Inv { p with task := .returned } where
  sent := { hi.sent with
      live := fun h => absurd rfl h
      cleanNext := by simp }
  carried := { hi.carried with }
  delivered := { hi.delivered with }

lemma Inv.pull (ho : p.isOpen = true) {rest} (hq : p.queue = frame :: rest) :
    Inv { p with queue := rest, wire := p.wire ++ [Msg.frame frame] } := by
  have hun := hi.carried.unsent ho
  have hf : p.taken ++ framesOf (p.wire ++ [Msg.frame frame]) ++ rest = p.queued := by
    rw [← hun, hq]
    simp
  have hu : .finished ∉ p.wire ++ [Msg.frame frame] := by simp [hi.carried.unfinished ho]
  refine ⟨{ hi.sent with }, ⟨⟨rest, hf⟩, fun _ => hf, fun _ => hu, ?_, ?_⟩, { hi.delivered with }⟩
  · intro left right h
    refine absurd ?_ hu
    simp only at h
    rw [h]
    simp
  · exact fun h => absurd h hu

end

lemma trailing_append (hm : framesOf [msg] = [])
    (h : ∀ left right, wire = left ++ Msg.finished :: right → framesOf right = []) :
    ∀ left right, wire ++ [msg] = left ++ Msg.finished :: right → framesOf right = [] := by
  intro left right heq
  rcases eq_nil_or_concat right with rfl | ⟨right', last, rfl⟩
  · rfl
  · rw [concat_eq_append, ← cons_append, ← append_assoc] at heq
    obtain ⟨hw, hl⟩ := append_inj' heq rfl
    rw [concat_eq_append, framesOf_append, h left right' hw, ← singleton_inj.1 hl, hm, append_nil]

lemma Inv.finish (hi : Inv p) (ho : p.isOpen = true) (hq : p.queue = []) :
    Inv { p with
      isOpen := false
      wire := p.wire ++ [Msg.finished]
      cut := p.cut || !p.queued.any Frame.isDone } := by
  have hu := hi.carried.unsent ho
  rw [hq, append_nil] at hu
  refine ⟨{ hi.sent with }, ⟨?_, by simp, by simp, ?_, ?_⟩, { hi.delivered with }⟩
  · simp [hu]
  · exact trailing_append rfl hi.carried.trailing
  · intro _
    rcases ha : p.queued.any Frame.isDone with _ | _
    · exact .inl (by simp)
    · obtain ⟨frame, hm, hd⟩ := any_eq_true.1 ha
      cases frame with
      | data bytes => cases hd
      | done e => exact .inr ⟨e, by simpa [hu] using hm⟩

lemma Inv.lose (hi : Inv p) (kept : ℕ) :
    Inv { p with isOpen := false, wire := p.wire.take kept ++ [Msg.failed] } := by
  have hf : framesOf (p.wire.take kept ++ [Msg.failed]) = framesOf (p.wire.take kept) := by simp
  have ht : ∀ left right, p.wire.take kept = left ++ Msg.finished :: right →
      framesOf (right ++ p.wire.drop kept) = [] := by
    intro left right h
    refine hi.carried.trailing left _ ?_
    rw [← cons_append, ← append_assoc, ← h, take_append_drop]
  refine ⟨{ hi.sent with }, ⟨?_, by simp, by simp, ?_, ?_⟩, { hi.delivered with }⟩
  · obtain ⟨lost, hl⟩ := framesOf_take_prefix p.wire kept
    refine List.IsPrefix.trans ⟨lost, ?_⟩ hi.carried.ordered
    rw [hf, append_assoc, hl]
  · refine trailing_append rfl fun left right h => ?_
    have hn := ht left right h
    rw [framesOf_append] at hn
    exact (append_eq_nil_iff.1 hn).1
  · intro hm
    have hk : .finished ∈ p.wire.take kept := by simpa using hm
    obtain ⟨left, right, hs⟩ := append_of_mem hk
    have hn := ht left right hs
    rw [framesOf_append] at hn
    have ha : framesOf (p.wire.take kept) = framesOf p.wire := by
      rw [← take_append_drop kept p.wire, framesOf_append, (append_eq_nil_iff.1 hn).2]
      simp
    rw [hf, ha]
    exact hi.carried.announced (mem_of_mem_take hk)

lemma Carried.take (h : Carried p) {taken sink} (hw : wire <:+ p.wire)
    (hf : taken ++ framesOf wire = p.taken ++ framesOf p.wire) :
    Carried { p with wire := wire, taken := taken, sink := sink } := by
  obtain ⟨before, hb⟩ := hw
  have hm : .finished ∈ wire → .finished ∈ p.wire := fun hm => by
    rw [← hb]
    exact mem_append_right before hm
  refine ⟨hf ▸ h.ordered, fun ho => hf ▸ h.unsent ho, fun ho hfin => h.unfinished ho (hm hfin), ?_,
    fun hfin => hf ▸ h.announced (hm hfin)⟩
  intro left right hs
  refine h.trailing (before ++ left) right ?_
  rw [← hb, append_assoc]
  exact congrArg (before ++ ·) hs

lemma Inv.take (hi : Inv p) (hsn : p.sink = .receiving) (hwr : p.wire = msg :: rest) :
    Inv (p.take rest msg) := by
  have hw := hi.delivered.receiving hsn
  have ht : ∀ e, .done e ∉ p.taken := fun e he => by
    cases hsn.symm.trans (hi.delivered.took e he).1
  have hs : rest <:+ p.wire := ⟨[msg], hwr.symm⟩
  have hc : framesOf p.wire = framesOf rest →
      Inv { p with wire := rest, sink := .closed } := fun hf =>
    ⟨{ hi.sent with }, hi.carried.take hs (by rw [hf]),
      ⟨by simp, by simp, fun e he => absurd he (ht e)⟩⟩
  match msg with
  | .frame (.data bytes) =>
    refine ⟨{ hi.sent with }, hi.carried.take hs ?_, ⟨by rintro ⟨⟩, ?_, ?_⟩⟩
    · rw [hwr, framesOf_cons_frame, append_assoc, singleton_append]
    · intro rest' h
      obtain rfl := Sink.writing.inj h
      rw [Pipe.take, hw, dataOf_append, dataOf_singleton, Frame.bytes]
    · intro e he
      refine absurd ?_ (ht e)
      simpa [Pipe.take] using he
  | .frame (.done error) =>
    refine ⟨{ hi.sent with }, hi.carried.take hs ?_,
      ⟨by rintro ⟨⟩, by rintro _ ⟨⟩, fun _ _ => ⟨rfl, ?_⟩⟩⟩
    · rw [hwr, framesOf_cons_frame, append_assoc, singleton_append]
    · simp only [Pipe.take]
      rw [hw, dataOf_append, dataOf_singleton, Frame.bytes, append_nil]
  | .finished => exact hc (by rw [hwr, framesOf_cons_finished])
  | .failed => exact hc (by rw [hwr, framesOf_cons_failed])

lemma Inv.write (hi : Inv p) {rest} (hs : p.sink = .writing rest) (n : ℕ) :
    Inv { p with written := p.written ++ rest.take n, sink := .after (rest.drop n) } := by
  have hw := hi.delivered.writing rest hs
  refine ⟨{ hi.sent with }, { hi.carried with }, ⟨?_, ?_, ?_⟩⟩
  · intro h
    rcases hd : rest.drop n with _ | ⟨b, bs⟩
    · simp only
      rw [← hw, take_of_length_le (drop_eq_nil_iff.1 hd)]
    · simp [hd, Sink.after] at h
  · intro rest' h
    rcases hd : rest.drop n with _ | ⟨b, bs⟩
    · simp [hd, Sink.after] at h
    · simp only [hd, Sink.after, Sink.writing.injEq] at h
      rw [← hw, ← h, ← hd, append_assoc, take_append_drop]
  · intro e he
    cases hs.symm.trans (hi.delivered.took e he).1

lemma Inv.abandon (hi : Inv p) : Inv { p with sink := .closed } where
  sent := { hi.sent with }
  carried := { hi.carried with }
  delivered := ⟨by simp, by simp, fun e he => ⟨rfl, (hi.delivered.took e he).2⟩⟩

variable {chunk cap : ℕ}

inductive Steps (p : Pipe α) : Op α → Pipe α → Prop
  | source (hopen : p.closing = none) (bytes : List α) :
    Steps p (.source bytes) { p with sent := p.sent ++ bytes, pending := p.pending ++ bytes }
  | close (hopen : p.closing = none) (closing : Closing) :
    Steps p (.close closing) { p with closing := some closing }
  | read (htask : p.task = .reading) (n : ℕ) :
    Steps p (.read n)
      { p with task := .sending (.data (p.pending.take n)), pending := p.pending.drop n }
  | readEof (htask : p.task = .reading) (hclosing : p.closing = some .eof)
      (hpending : p.pending = []) :
    Steps p .readEnd { p with task := .sending (.done "") }
  | readError (htask : p.task = .reading) {text} (hclosing : p.closing = some (.error text)) :
    Steps p .readEnd { p with task := .sending (.done text) }
  | send {frame : Frame α} (htask : p.task = .sending frame) :
    Steps p .send
      { p with task := frame.next, queue := p.queue ++ [frame], queued := p.queued ++ [frame] }
  | sendFails (hclosed : p.isOpen = false) : Steps p .sendFails { p with task := .returned }
  | stop : Steps p .stop { p with task := .returned }
  | pull (hopen : p.isOpen = true) {frame : Frame α} {rest : List (Frame α)}
      (hqueue : p.queue = frame :: rest) :
    Steps p .pull { p with queue := rest, wire := p.wire ++ [Msg.frame frame] }
  | finish (hopen : p.isOpen = true) (htask : p.task = .returned) (hqueue : p.queue = []) :
    Steps p .finish { p with
      isOpen := false
      wire := p.wire ++ [Msg.finished]
      cut := p.cut || !p.queued.any Frame.isDone }
  | fail : Steps p .fail { p with isOpen := false, wire := p.wire ++ [Msg.failed] }
  | lose (kept : ℕ) :
    Steps p (.lose kept) { p with isOpen := false, wire := p.wire.take kept ++ [Msg.failed] }
  | receive (hsink : p.sink = .receiving) {msg : Msg α} {rest : List (Msg α)}
      (hwire : p.wire = msg :: rest) :
    Steps p .receive (p.take rest msg)
  | write {rest : List α} (hsink : p.sink = .writing rest) (n : ℕ) :
    Steps p (.write n)
      { p with written := p.written ++ rest.take n, sink := .after (rest.drop n) }
  | abandon : Steps p .abandon { p with sink := .closed }

lemma steps_of_step (hs : p.step chunk cap op = some p') : Steps p op p' := by
  revert hs
  fun_cases Pipe.step chunk cap p op <;> rintro ⟨⟩
  · next ho => exact .source (Option.isNone_iff_eq_none.1 ho) _
  · next ho => exact .close (Option.isNone_iff_eq_none.1 ho) _
  · next ht _ => exact .read ht _
  · next hc ht he => exact .readEof ht hc (List.isEmpty_iff.1 he)
  · next hc ht => exact .readError ht hc
  · next ht _ => exact .send ht
  · next hcl => exact .sendFails (by simpa using hcl)
  · exact .stop
  · next hq ho => exact .pull ho hq
  · next hq ht ho => exact .finish ho ht hq
  · exact .fail
  · exact .lose _
  · next hw hsn => exact .receive hsn hw
  · next hsn _ => exact .write hsn _
  · exact .abandon

lemma receive_some (hs : p.step chunk cap .receive = some p') :
    ∃ msg rest, p.sink = .receiving ∧ p.wire = msg :: rest ∧ p' = p.take rest msg := by
  cases steps_of_step hs with
  | receive hsn hw => exact ⟨_, _, hsn, hw, rfl⟩

/-- **One step** keeps the invariant, if an error of the source has a text. -/
theorem inv_step (hi : Inv p) (htx : op ≠ .close (.error ""))
    (hs : p.step chunk cap op = some p') : Inv p' := by
  cases steps_of_step hs with
  | source ho bytes => exact hi.source ho bytes
  | close ho closing => exact hi.close ho fun h => htx (by rw [h])
  | read ht n => exact hi.read ht n
  | readEof ht hc hp => exact hi.readEnd ht fun _ => ⟨hc, hp⟩
  | readError ht hc => exact hi.readEnd ht fun h => absurd (h ▸ hc) hi.sent.texts
  | send ht => exact hi.send ht
  | sendFails | stop => exact hi.stop
  | pull ho hq => exact hi.pull ho hq
  | finish ho _ hq => exact hi.finish ho hq
  | fail => simpa using hi.lose p.wire.length
  | lose kept => exact hi.lose kept
  | receive hsn hw => exact hi.take hsn hw
  | write hsn n => exact hi.write hsn n
  | abandon => exact hi.abandon

/-! ### What a step leaves -/

/-- The task left without a last frame, and the stream has not ended. -/
def Deserted (p : Pipe α) : Prop :=
  p.task = .returned ∧ (∀ e, .done e ∉ p.queued) ∧ p.isOpen = true

lemma mem_taken_of_step (hs : p.step chunk cap op = some p') (h : frame ∈ p.taken) :
    frame ∈ p'.taken := by
  cases steps_of_step hs with
  | receive hsn hw => exact (p.take_frame _ _).2.2.2.2.subset h
  | _ => exact h

lemma mem_queued_of_step (hs : p.step chunk cap op = some p') (h : frame ∈ p.queued) :
    frame ∈ p'.queued := by
  cases steps_of_step hs with
  | send ht => exact mem_append_left _ h
  | receive hsn hw => rwa [(p.take_frame _ _).1]
  | _ => exact h

lemma deserted_of_step (hs : p.step chunk cap op = some p') (h : Deserted p') :
    Deserted p ∨ op = .stop := by
  obtain ⟨ht', hn, ho'⟩ := h
  have hq : ∀ e, .done e ∉ p.queued := fun e he => hn e (mem_queued_of_step hs he)
  cases steps_of_step hs with
  | read | readEof | readError => cases ht'
  | @send frame hts =>
    cases frame with
    | data bytes => cases ht'
    | done e => exact absurd (by simp) (hn e)
  | sendFails hc => cases hc.symm.trans ho'
  | stop => exact .inr rfl
  | finish | fail | lose => cases ho'
  | @receive hsn msg rest hw =>
    obtain ⟨-, ht, ho, -⟩ := p.take_frame rest msg
    exact .inl ⟨ht ▸ ht', hq, ho ▸ ho'⟩
  | source | close | pull | write | abandon => exact .inl ⟨ht', hq, ho'⟩

lemma cut_of_step (hs : p.step chunk cap op = some p') (h : p'.cut = true) :
    p.cut = true ∨ (op = .finish ∧ Deserted p) := by
  cases steps_of_step hs with
  | finish ho ht hq =>
    rcases hc : p.cut with _ | _
    · refine .inr ⟨rfl, ht, fun e he => ?_, ho⟩
      have ha : p.queued.any Frame.isDone = true := any_eq_true.2 ⟨.done e, he, rfl⟩
      simp [hc, ha] at h
    · exact .inl rfl
  | @receive hsn msg rest hw =>
    obtain ⟨-, -, -, hc, -⟩ := p.take_frame rest msg
    exact .inl (hc ▸ h)
  | _ => exact .inl h

end Steps

end Zecurity.FramePipe
