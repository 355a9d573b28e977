import Mathlib.Data.List.AList

/-!
Finite maps with the bulk operations that the maps of a program's standard library have: keep
the entries that pass a test, rewrite every value in its place, and count.
-/

namespace Zecurity.FiniteMap

/-- A finite map with values of one type. -/
abbrev Map (K V : Type*) := AList fun _ : K => V

variable {K V : Type*}

def retain (m : Map K V) (p : K → V → Bool) : Map K V where
  entries := m.entries.filter fun e => p e.1 e.2
  nodupKeys := m.nodupKeys.sublist List.filter_sublist

def mapValues (m : Map K V) (f : K → V → V) : Map K V where
  entries := m.entries.map (Sigma.map id f)
  nodupKeys := m.nodupKeys.map₂ f

def updateWhere (m : Map K V) (p : K → V → Bool) (f : V → V) : Map K V :=
  mapValues m fun k v => if p k v then f v else v

def size (m : Map K V) : ℕ := m.entries.length

def count (m : Map K V) (p : V → Bool) : ℕ := m.entries.countP fun e => p e.2

variable [DecidableEq K] {m : Map K V} {k k' : K} {v : V} {p : K → V → Bool} {f : V → V}

lemma lookup_retain_eq_some :
    (retain m p).lookup k = some v ↔ m.lookup k = some v ∧ p k v = true := by
  rw [← Option.mem_def, ← Option.mem_def, AList.mem_lookup_iff, AList.mem_lookup_iff]
  exact List.mem_filter

lemma mem_keys_retain : k ∈ (retain m p).keys ↔ ∃ v, m.lookup k = some v ∧ p k v = true := by
  rw [← AList.mem_keys, ← AList.lookup_isSome, Option.isSome_iff_exists]
  simp only [lookup_retain_eq_some]

lemma lookup_mapValues (m : Map K V) (f : K → V → V) (k : K) :
    (mapValues m f).lookup k = (m.lookup k).map (f k) := List.dlookup_map₂ k

lemma lookup_updateWhere (m : Map K V) (p : K → V → Bool) (f : V → V) (k : K) :
    (updateWhere m p f).lookup k = (m.lookup k).map fun v => if p k v then f v else v :=
  lookup_mapValues m _ k

lemma isSome_lookup_updateWhere : ((updateWhere m p f).lookup k).isSome = (m.lookup k).isSome := by
  rw [lookup_updateWhere, Option.isSome_map]

lemma lookup_updateWhere_eq_some :
    (updateWhere m p f).lookup k = some v ↔
      ∃ w, m.lookup k = some w ∧ (p k w = true ∧ v = f w ∨ p k w = false ∧ v = w) := by
  rw [lookup_updateWhere, Option.map_eq_some_iff]
  refine exists_congr fun w => and_congr_right fun _ => ?_
  cases p k w <;> simp [eq_comm]

lemma lookup_erase_eq_some : (m.erase k').lookup k = some v ↔ m.lookup k = some v ∧ k ≠ k' := by
  by_cases hk : k = k'
  · subst hk
    simp
  · rw [AList.lookup_erase_ne hk]
    exact ⟨fun h => ⟨h, hk⟩, fun h => h.1⟩

variable {v' : V} {P : K → V → Prop}

lemma lookup_insert_eq_some :
    (m.insert k' v').lookup k = some v ↔ k = k' ∧ v = v' ∨ k ≠ k' ∧ m.lookup k = some v := by
  by_cases hk : k = k'
  · subst hk
    simp [eq_comm]
  · rw [AList.lookup_insert_ne hk]
    simp [hk]

lemma lookup_singleton_eq_some :
    (AList.singleton k v : Map K V).lookup k' = some v' ↔ k' = k ∧ v' = v := by
  refine (lookup_insert_eq_some (m := ∅)).trans ?_
  simp

/-- What holds of every entry holds after an insertion if it holds of the new one. -/
lemma forall_lookup_insert (h : ∀ i x, m.lookup i = some x → P i x) (hv : P k v) :
    ∀ i x, (m.insert k v).lookup i = some x → P i x := by
  intro i x hx
  rcases lookup_insert_eq_some.1 hx with ⟨rfl, rfl⟩ | ⟨-, hold⟩
  · exact hv
  · exact h i x hold

lemma forall_lookup_erase (h : ∀ i x, m.lookup i = some x → P i x) :
    ∀ i x, (m.erase k).lookup i = some x → P i x :=
  fun i x hx => h i x (lookup_erase_eq_some.1 hx).1

def All (m : Map K V) (p : V → Prop) : Prop := ∀ k v, m.lookup k = some v → p v

instance (m : Map K V) (p : V → Prop) [DecidablePred p] : Decidable (All m p) :=
  decidable_of_iff (∀ e ∈ m.entries, p e.2)
    ⟨fun h k v hv => h ⟨k, v⟩ (AList.mem_lookup_iff.1 hv),
      fun h e he => h e.1 e.2 (AList.mem_lookup_iff.2 he)⟩

lemma All.empty {p : V → Prop} : All (∅ : Map K V) p := nofun

lemma All.insert {p : V → Prop} (h : All m p) (hv : p v) : All (m.insert k v) p :=
  forall_lookup_insert h hv

lemma lookup_insert_of_new (hn : m.lookup k' = none) (h : m.lookup k = some v) :
    (m.insert k' v').lookup k = some v := by
  refine lookup_insert_eq_some.2 (.inr ⟨?_, h⟩)
  rintro rfl
  rw [hn] at h
  cases h

lemma exists_lookup_insert {old} {p : V → Prop} (hold : m.lookup k' = some old) (hp : p old → p v)
    (h : ∃ x, m.lookup k = some x ∧ p x) : ∃ x, (m.insert k' v).lookup k = some x ∧ p x := by
  obtain ⟨x, hx, hpx⟩ := h
  by_cases hk : k = k'
  · subst hk
    cases hold.symm.trans hx
    exact ⟨v, AList.lookup_insert m, hp hpx⟩
  · exact ⟨x, (AList.lookup_insert_ne hk).trans hx, hpx⟩

/-- What no two entries hold, no two hold after one that takes what is free or was its own. -/
lemma exclusive_insert {T : Type*} {f : V → Option T}
    (h : ∀ i j x y t, m.lookup i = some x → m.lookup j = some y →
      f x = some t → f y = some t → i = j)
    (hv : ∀ t, f v = some t →
      (All m fun x => f x ≠ some t) ∨ ∃ old, m.lookup k = some old ∧ f old = some t) :
    ∀ i j x y t, (m.insert k v).lookup i = some x → (m.insert k v).lookup j = some y →
      f x = some t → f y = some t → i = j := by
  have ho : ∀ j y t, m.lookup j = some y → f v = some t → f y = some t → j = k := by
    intro j y t hj hn hy
    rcases hv t hn with hf | ⟨old, hold, hh⟩
    · exact absurd hy (hf j y hj)
    · exact h j k y old t hj hold hy hh
  intro i j x y t hi hj hx hy
  rcases lookup_insert_eq_some.1 hi with ⟨rfl, rfl⟩ | ⟨-, hi'⟩ <;>
    rcases lookup_insert_eq_some.1 hj with ⟨rfl, rfl⟩ | ⟨-, hj'⟩
  · rfl
  · exact (ho j y t hj' hx hy).symm
  · exact ho i x t hi' hy hx
  · exact h i j x y t hi' hj' hx hy

section Fresh

variable (h : m.lookup k = none) (v : V)
include h

lemma size_insert : size (m.insert k v) = size m + 1 := by
  rw [size, AList.entries_insert_of_notMem (AList.lookup_eq_none.1 h), List.length_cons, size]

lemma count_insert (p : V → Bool) : count (m.insert k v) p = count m p + if p v then 1 else 0 := by
  rw [count, AList.entries_insert_of_notMem (AList.lookup_eq_none.1 h), List.countP_cons, count]

end Fresh

end Zecurity.FiniteMap
