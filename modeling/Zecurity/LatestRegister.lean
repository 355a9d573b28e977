import Mathlib.Order.Lattice
import Mathlib.Tactic.Common

/-!
A register that takes the write with the latest time, whatever order writes arrive in.

One value is `blank`: the register takes it, but what it saved before stays, and a reset goes
back to that.
-/

namespace Zecurity.LatestRegister

variable {T V : Type*}

structure Register (T V : Type*) where
  time : T
  value : V
  saved : V

inductive Event (T V : Type*)
  | write (time : T) (value : V)
  | reset
  deriving DecidableEq

variable [LinearOrder T] [DecidableEq V] (blank : V)

/-- The register after one event: a write that is not later changes nothing. -/
def Register.after (r : Register T V) : Event T V → Register T V
  | .write time value =>
    if r.time < time then ⟨time, value, if value = blank then r.saved else value⟩ else r
  | .reset => { r with value := r.saved }

def Register.run (r : Register T V) (events : List (Event T V)) : Register T V :=
  events.foldl (Register.after blank) r

variable {r : Register T V} {time : T} {events : List (Event T V)}

@[simp] lemma run_nil (r : Register T V) : r.run blank [] = r := rfl

@[simp] lemma run_cons (r : Register T V) (e : Event T V) (events : List (Event T V)) :
    r.run blank (e :: events) = (r.after blank e).run blank events := rfl

lemma run_append (r : Register T V) (left right : List (Event T V)) :
    r.run blank (left ++ right) = (r.run blank left).run blank right := List.foldl_append

variable {blank}

lemma after_newer (h : r.time < time) (value : V) :
    r.after blank (.write time value) =
      ⟨time, value, if value = blank then r.saved else value⟩ := if_pos h

lemma after_not_newer (h : time ≤ r.time) (value : V) :
    r.after blank (.write time value) = r := if_neg (not_lt.2 h)

/-- **One event** never takes the time back. -/
lemma time_le_after (r : Register T V) (e : Event T V) : r.time ≤ (r.after blank e).time := by
  cases e with
  | write time value =>
    rcases lt_or_ge r.time time with h | h
    · rw [after_newer h]
      exact h.le
    · rw [after_not_newer h]
  | reset => exact le_rfl

lemma time_le_run (r : Register T V) (events : List (Event T V)) :
    r.time ≤ (r.run blank events).time := by
  induction events generalizing r with
  | nil => exact le_rfl
  | cons e events ih => exact (time_le_after r e).trans (ih (r.after blank e))

lemma time_le_after_write (r : Register T V) (time : T) (value : V) :
    time ≤ (r.after blank (.write time value)).time := by
  rcases lt_or_ge r.time time with h | h
  · rw [after_newer h]
  · rw [after_not_newer h]
    exact h

/-- The value is the saved one, except after a blank write. -/
def Coherent (blank : V) (r : Register T V) : Prop := r.value = blank ∨ r.value = r.saved

lemma coherent_after (h : Coherent blank r) (e : Event T V) : Coherent blank (r.after blank e) := by
  cases e with
  | write time value =>
    rcases lt_or_ge r.time time with hlt | hge
    · rw [after_newer hlt]
      by_cases hb : value = blank
      · exact .inl hb
      · exact .inr (if_neg hb).symm
    · rwa [after_not_newer hge]
  | reset => exact .inr rfl

lemma run_quiet (h : ∀ time value, Event.write time value ∈ events → time ≤ r.time) :
    r.run blank events = { r with value := if .reset ∈ events then r.saved else r.value } := by
  induction events generalizing r with
  | nil => simp
  | cons e events ih =>
    have hrs : ∀ time value, Event.write time value ∈ events → time ≤ r.time :=
      fun time value hm => h time value (List.mem_cons_of_mem e hm)
    cases e with
    | write time value =>
      rw [run_cons, after_not_newer (h time value List.mem_cons_self), ih hrs]
      simp
    | reset =>
      have hr : (r.after blank .reset).run blank events = { r.after blank .reset with
            value := if .reset ∈ events then r.saved else r.saved } := ih hrs
      rw [run_cons, hr]
      simp [Register.after]

variable (blank) in
/-- **Every run with a later write** ends with the value of the latest one, or with what was
saved before it, if it was blank and a reset came after it. -/
theorem run_latest (h : ∃ time value, Event.write time value ∈ events ∧ r.time < time) :
    ∃ left time value right, events = left ++ Event.write time value :: right ∧
      (∀ time' value', Event.write time' value' ∈ events → time' ≤ time) ∧
      (r.run blank events).time = time ∧ (r.run blank events).value =
        if value = blank ∧ .reset ∈ right then (r.run blank left).saved else value := by
  induction events generalizing r with
  | nil =>
    obtain ⟨_, _, hm, -⟩ := h
    exact absurd hm List.not_mem_nil
  | cons e events ih =>
    by_cases hl : ∃ time value, Event.write time value ∈ events ∧ (r.after blank e).time < time
    · -- the latest write is still to come
      obtain ⟨left, time, value, right, heq, hmax, ht, hv⟩ := ih hl
      refine ⟨e :: left, time, value, right, by rw [heq, List.cons_append], ?_, ht, hv⟩
      intro time' value' hm
      rcases List.mem_cons.1 hm with rfl | hm
      · calc time' ≤ (r.after blank (.write time' value')).time := time_le_after_write r _ _
          _ ≤ ((r.after blank (.write time' value')).run blank events).time := time_le_run _ _
          _ = time := ht
      · exact hmax time' value' hm
    · -- the first event is the latest write, and the rest is quiet
      have hq : ∀ time value, Event.write time value ∈ events → time ≤ (r.after blank e).time :=
        fun time value hm => not_lt.1 fun hlt => hl ⟨time, value, hm, hlt⟩
      obtain ⟨time, value, hm, hlt⟩ := h
      have hg : r.time < (r.after blank e).time := by
        rcases List.mem_cons.1 hm with rfl | hm
        · exact hlt.trans_le (time_le_after_write r time value)
        · exact hlt.trans_le (hq time value hm)
      cases e with
      | reset => exact absurd hg (lt_irrefl _)
      | write first firstValue =>
        have hf : r.time < first := by
          by_contra hle
          rw [after_not_newer (not_lt.1 hle)] at hg
          exact lt_irrefl _ hg
        have hrun : (r.after blank (.write first firstValue)).run blank events = _ := run_quiet hq
        rw [after_newer hf] at hrun hq
        refine ⟨[], first, firstValue, events, rfl, ?_, ?_, ?_⟩
        · grind
        · rw [run_cons, after_newer hf, hrun]
        · rw [run_cons, after_newer hf, hrun, run_nil]
          by_cases hr : Event.reset ∈ events <;> by_cases hb : firstValue = blank <;>
            simp [hr, hb]

end Zecurity.LatestRegister
