import Mathlib.Tactic

/-! Bags of rows that pass through stages. A stage extends a row in several ways and keeps the extensions that
meet a condition; an optional stage has a default for a row none of whose extensions is kept. -/

namespace Voyager.Lib

open scoped Classical

noncomputable section

@[ext]
structure Stage (ρ : Type) [Preorder ρ] where
  optional : Bool
  candidates : ρ → Multiset ρ
  absent : ρ → ρ
  le_candidates : ∀ r, ∀ r' ∈ candidates r, r ≤ r'
  le_absent : ∀ r, r ≤ absent r

variable {ρ : Type} [Preorder ρ]

namespace Stage

variable (s : Stage ρ) (keep : ρ → Prop)

def run (r : ρ) : Multiset ρ :=
  if s.optional = true ∧ (s.candidates r).filter keep = 0 then {s.absent r} else (s.candidates r).filter keep

variable {s keep} {r r' : ρ}

lemma run_of_mandatory (h : s.optional = false) : s.run keep r = (s.candidates r).filter keep := by
  simp [run, h]

lemma mem_run (h : s.optional = false) : r' ∈ s.run keep r ↔ r' ∈ s.candidates r ∧ keep r' := by
  rw [run_of_mandatory h, Multiset.mem_filter]

lemma run_of_only (h : s.optional = true) (hcandidates : s.candidates r = {r'}) (habsent : s.absent r = r') :
    s.run keep r = {r'} := by
  by_cases hkeep : keep r'
  · simp [run, hcandidates, hkeep]
  · simp [run, h, hcandidates, habsent, hkeep]

lemma run_and (h : s.optional = false) (cond : ρ → Prop) :
    s.run (fun r => keep r ∧ cond r) r = (s.run keep r).filter cond := by
  simp only [run_of_mandatory h, Multiset.filter_filter, and_comm]
  congr

lemma le_of_mem_run (h : r' ∈ s.run keep r) : r ≤ r' := by
  unfold run at h
  split at h
  · rw [Multiset.mem_singleton] at h
    exact h ▸ s.le_absent r
  · exact s.le_candidates r r' (Multiset.mem_of_mem_filter h)

end Stage

abbrev Pipeline (ρ : Type) [Preorder ρ] := List (Stage ρ × (ρ → Prop))

namespace Pipeline

def run : Pipeline ρ → Multiset ρ → Multiset ρ
  | [], bag => bag
  | (s, keep) :: rest, bag => run rest (bag.bind (s.run keep))

lemma run_append (l l' : Pipeline ρ) (bag : Multiset ρ) : run (l ++ l') bag = run l' (run l bag) := by
  induction l generalizing bag with
  | nil => rfl
  | cons stage l ih => exact ih _

lemma run_bind (l : Pipeline ρ) (bag : Multiset ρ) (f : ρ → Multiset ρ) :
    run l (bag.bind f) = bag.bind fun r => run l (f r) := by
  induction l generalizing f with
  | nil => rfl
  | cons stage l ih =>
    simp only [run]
    rw [Multiset.bind_assoc, ih]

lemma run_eq_bind (l : Pipeline ρ) (bag : Multiset ρ) : run l bag = bag.bind fun r => run l {r} := by
  rw [← run_bind, Multiset.bind_singleton, Multiset.map_id']

lemma le_of_mem_run {l : Pipeline ρ} {r r' : ρ} (h : r' ∈ run l {r}) : r ≤ r' := by
  induction l generalizing r with
  | nil => exact (Multiset.mem_singleton.mp h).ge
  | cons stage l ih =>
    simp only [run, Multiset.singleton_bind] at h
    rw [run_eq_bind, Multiset.mem_bind] at h
    obtain ⟨next, hnext, h⟩ := h
    exact (Stage.le_of_mem_run hnext).trans (ih h)

omit [Preorder ρ] in
lemma bind_filter (bag : Multiset ρ) (p : ρ → Prop) (f : ρ → Multiset ρ) :
    (bag.filter p).bind f = bag.bind fun r => if p r then f r else 0 := by
  induction bag using Multiset.induction_on with
  | empty => simp
  | cons r bag ih =>
    by_cases h : p r
    · simp [h, ih]
    · simp [h, ih]

lemma run_zero (l : Pipeline ρ) : run l 0 = 0 := by
  rw [run_eq_bind, Multiset.zero_bind]

lemma run_settled {t : Stage ρ} {q cond : ρ → Prop} (ht : t.optional = false) {r r' : ρ} (hle : r ≤ r')
    (hcond : ∀ r'', r ≤ r'' → (cond r'' ↔ cond r)) :
    t.run (fun r => q r ∧ cond r) r' = if cond r then t.run q r' else 0 := by
  have hsame : ∀ r'' ∈ t.run q r', cond r'' ↔ cond r :=
    fun r'' hr'' => hcond r'' (hle.trans (Stage.le_of_mem_run hr''))
  rw [Stage.run_and ht, Multiset.filter_congr hsame]
  by_cases h : cond r
  · simp [h]
  · simp [h]

theorem run_move {pre mid post : Pipeline ρ} {s t : Stage ρ} {p q cond : ρ → Prop} (hs : s.optional = false)
    (ht : t.optional = false) (hcond : ∀ r, ∀ r' ∈ s.candidates r, ∀ r'', r' ≤ r'' → (cond r'' ↔ cond r'))
    (bag : Multiset ρ) :
    run (pre ++ (s, p) :: (mid ++ (t, fun r => q r ∧ cond r) :: post)) bag =
      run (pre ++ (s, fun r => p r ∧ cond r) :: (mid ++ (t, q) :: post)) bag := by
  rw [run_append, run_append]
  simp only [run, run_append, run_bind]
  refine Multiset.bind_congr fun r _ => ?_
  rw [Stage.run_and hs, run_eq_bind, run_eq_bind mid (Multiset.filter _ _), bind_filter, Multiset.bind_assoc,
    Multiset.bind_assoc]
  refine Multiset.bind_congr fun r' hr' => ?_
  -- from here on the condition holds for all rows or for none
  have hsettled := hcond r r' ((Stage.mem_run hs).mp hr').1
  have hlater : ∀ r'' ∈ run mid {r'}, run post (t.run (fun r => q r ∧ cond r) r'') =
      if cond r' then run post (t.run q r'') else 0 := by
    intro r'' hr''
    rw [run_settled ht (le_of_mem_run hr'') hsettled]
    split
    · rfl
    · exact run_zero post
  rw [Multiset.bind_congr hlater]
  by_cases h : cond r'
  · simp [h]
  · simp [h]

end Pipeline

end

end Voyager.Lib
