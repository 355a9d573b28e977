import Mathlib.Data.List.Perm.Basic
import Zecurity.Runs

/-!
Restarts of the client's tunnel (`client/src/daemon.rs`, `register_restart_request` and
`run_restart_worker`).

A step is what is done under one lock, the end of a pass, or one answer. Requests and passes are
numbered in the order in which they are registered and begun. A pass that panics fails with the
text for it. The answers of a pass come at any time after it; a worker whose pass has failed has
left its loop by then.
-/

namespace Zecurity.TunnelRestarts

open Runs List

structure Request where
  number : ℕ
  /-- how many passes were begun when it was registered -/
  since : ℕ

inductive Phase
  | looking
  | passing (pass : ℕ) (batch : List Request)
  /-- the pass has failed, and the worker waits for the lock -/
  | failed (pass : ℕ) (batch : List Request) (error : String)

structure Answer where
  request : Request
  pass : ℕ
  error : Option String

structure State where
  running : Bool := false
  pending : List Request := []
  workers : List Phase := []
  requests : ℕ := 0
  passes : ℕ := 0
  sending : List Answer := []
  answers : List Answer := []

inductive Action
  | register
  | work (i : ℕ) (error : Option String)
  | send (i : ℕ)

def step (s : State) : Action → Option State
  | .register =>
    let s := { s with pending := s.pending ++ [⟨s.requests, s.passes⟩], requests := s.requests + 1 }
    some (if s.running then s else { s with running := true, workers := .looking :: s.workers })
  | .send i => s.sending[i]?.map fun a =>
      { s with sending := s.sending.eraseIdx i, answers := a :: s.answers }
  | .work i error =>
    let rest := s.workers.eraseIdx i
    match s.workers[i]? with
    | none => none
    | some .looking =>
      if s.pending = [] then some { s with running := false, workers := rest }
      else some { s with
        pending := []
        passes := s.passes + 1
        workers := .passing (s.passes + 1) s.pending :: rest }
    | some (.passing pass batch) =>
      match error with
      | none => some { s with
          workers := .looking :: rest
          sending := batch.map (⟨·, pass, none⟩) ++ s.sending }
      | some e => some { s with workers := .failed pass batch e :: rest }
    | some (.failed pass batch e) =>
      some { s with
        running := false
        pending := []
        workers := rest
        sending := (batch ++ s.pending).map (⟨·, pass, some e⟩) ++ s.sending }

def Phase.batch : Phase → List Request
  | .looking => []
  | .passing _ batch | .failed _ batch _ => batch

def State.all (s : State) : List Request :=
  s.pending ++ s.workers.flatMap Phase.batch ++ (s.sending ++ s.answers).map Answer.request

/-- The pass began after the request, or it is the last one before it and has failed. -/
def Answer.Fits (a : Answer) : Prop :=
  a.request.since < a.pass ∨ a.request.since = a.pass ∧ a.error ≠ none

def Phase.Fits (passes : ℕ) : Phase → Prop
  | .looking => True
  | .passing pass batch | .failed pass batch _ => pass = passes ∧ ∀ r ∈ batch, r.since < pass

structure Inv (s : State) : Prop where
  one : s.workers.length = if s.running then 1 else 0
  all : (s.all.map Request.number).Perm (range s.requests)
  idle : s.running = false → s.pending = []
  pending : ∀ r ∈ s.pending, r.since = s.passes
  workers : ∀ w ∈ s.workers, w.Fits s.passes
  answers : ∀ a ∈ s.sending ++ s.answers, a.Fits

lemma inv_step (s : State) (a : Action) (s' : State) (h : Inv s) (hs : step s a = some s') :
    Inv s' := by
  obtain ⟨running, pending, workers, requests, passes, sending, ans⟩ := s
  obtain ⟨ho, hall, hidl, hp, hw, han⟩ := h
  dsimp only [State.all] at *
  cases a with
  | register =>
    have hn : ((pending ++ [(⟨requests, passes⟩ : Request)] ++ workers.flatMap Phase.batch ++
        (sending ++ ans).map Answer.request).map Request.number).Perm
        (range (requests + 1)) := by
      simp only [map_append, map_cons, append_assoc, singleton_append] at hall ⊢
      rw [range_succ]
      exact perm_middle.trans ((hall.cons _).trans (perm_append_singleton _ _).symm)
    have hsn : ∀ r ∈ pending ++ [(⟨requests, passes⟩ : Request)], r.since = passes :=
      forall_mem_append.2 ⟨hp, by simp⟩
    cases running <;> cases hs
    · exact ⟨congrArg (· + 1) ho, hn, by simp, hsn, forall_mem_cons.2 ⟨trivial, hw⟩, han⟩
    · exact ⟨ho, hn, by simp, hsn, hw, han⟩
  | send i =>
    obtain ⟨a, ha, rfl⟩ := Option.map_eq_some_iff.1 hs
    obtain ⟨hi, rfl⟩ := List.getElem?_eq_some_iff.1 ha
    have hpr : (sending.eraseIdx i ++ sending[i] :: ans).Perm (sending ++ ans) :=
      perm_middle.trans ((getElem_cons_eraseIdx_perm hi).append_right _)
    exact ⟨ho, (((hpr.map _).append_left _).map _).trans hall, hidl, hp, hw,
      fun a ha => han a (hpr.subset ha)⟩
  | work i error =>
    obtain ⟨w, rfl, rfl, rfl⟩ : ∃ w, workers = [w] ∧ running = true ∧ i = 0 := by
      rcases workers with _ | ⟨w, rest⟩
      · cases hs
      · cases running <;> simp at ho
        subst ho
        cases i with
        | zero => exact ⟨w, rfl, rfl, rfl⟩
        | succ => cases hs
    have hf := hw w mem_cons_self
    cases w with
    | looking =>
      dsimp only [step, getElem?_cons_zero] at hs
      split at hs <;> cases hs
      · next he => exact ⟨rfl, hall, fun _ => he, hp, by simp, han⟩
      · refine ⟨rfl, by simpa [State.all, Phase.batch] using hall, by simp, by simp, ?_, han⟩
        refine forall_mem_singleton.2 ⟨rfl, fun r hr => ?_⟩
        exact Nat.lt_succ_of_le (Nat.le_of_eq (hp r hr))
    | passing pass batch =>
      obtain ⟨rfl, hb⟩ := hf
      cases error <;> cases hs
      · refine ⟨rfl, ?_, by simp, hp, forall_mem_singleton.2 trivial, ?_⟩
        · simpa [State.all, Phase.batch, Function.comp_def] using hall
        · rw [append_assoc, forall_mem_append, forall_mem_map]
          exact ⟨fun r hr => .inl (hb r hr), han⟩
      · exact ⟨rfl, hall, hidl, hp, forall_mem_singleton.2 ⟨rfl, hb⟩, han⟩
    | failed pass batch e =>
      cases hs
      obtain ⟨rfl, hb⟩ := hf
      refine ⟨rfl, ?_, fun _ => rfl, by simp, by simp, ?_⟩
      · refine (Perm.map _ ?_).trans hall
        simpa [State.all, Phase.batch, Function.comp_def] using perm_append_comm_assoc ..
      · -- who came while the pass ran, or after it, gets its failure
        rw [append_assoc, forall_mem_append, forall_mem_map, forall_mem_append]
        refine ⟨⟨fun r hr => .inl (hb r hr), fun r hr => ?_⟩, han⟩
        exact .inr ⟨hp r hr, by simp⟩

end Zecurity.TunnelRestarts
