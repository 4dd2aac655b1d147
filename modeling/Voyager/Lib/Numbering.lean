import Mathlib.Tactic

/-! Numbering items by a counter that some marks set back to zero. -/

namespace Voyager.Lib

inductive Mark (α : Type)
  | item (a : α)
  | reset

namespace Mark

variable {α : Type}

def numbering : ℕ → List (Mark α) → List (ℕ × α)
  | _, [] => []
  | n, item a :: ms => (n, a) :: numbering (n + 1) ms
  | _, reset :: ms => numbering 0 ms

def counter : ℕ → List (Mark α) → ℕ
  | n, [] => n
  | n, item _ :: ms => counter (n + 1) ms
  | _, reset :: ms => counter 0 ms

def items : List (Mark α) → List α
  | [] => []
  | item a :: ms => a :: items ms
  | reset :: ms => items ms

def Fresh (ms : List (Mark α)) : Prop :=
  ∀ pre post, ms = pre ++ reset :: post → items pre = [] ∨ items post = []

lemma numbering_append (u v : List (Mark α)) (n : ℕ) :
    numbering n (u ++ v) = numbering n u ++ numbering (counter n u) v := by
  induction u generalizing n with
  | nil => rfl
  | cons m u ih => cases m <;> simp [numbering, counter, ih]

lemma counter_append (u v : List (Mark α)) (n : ℕ) : counter n (u ++ v) = counter (counter n u) v := by
  induction u generalizing n with
  | nil => rfl
  | cons m u ih => cases m <;> simp [counter, ih]

lemma numbering_map_snd (ms : List (Mark α)) (n : ℕ) : (numbering n ms).map Prod.snd = items ms := by
  induction ms generalizing n with
  | nil => rfl
  | cons m ms ih => cases m <;> simp [numbering, items, ih]

variable {ms : List (Mark α)}

lemma numbering_eq_nil {n : ℕ} : numbering n ms = [] ↔ items ms = [] := by
  rw [← numbering_map_snd ms n, List.map_eq_nil_iff]

lemma fst_numbering_of_items_after {n : ℕ} (h : ∀ pre post, ms = pre ++ reset :: post → items post = []) :
    (numbering n ms).map Prod.fst = List.range' n (items ms).length := by
  induction ms generalizing n with
  | nil => rfl
  | cons m ms ih =>
    have htail : ∀ pre post, ms = pre ++ reset :: post → items post = [] := fun pre post he =>
      h (m :: pre) post (by rw [he]; rfl)
    cases m with
    | item a => simp [numbering, items, List.range'_succ, ih htail]
    | reset =>
      have hnil : items ms = [] := h [] ms rfl
      simp [numbering, items, hnil, numbering_eq_nil.mpr hnil]

lemma zero_mem_of_items_ne_nil (h : items ms ≠ []) : 0 ∈ (numbering 0 ms).map Prod.fst := by
  induction ms with
  | nil => exact absurd rfl h
  | cons m ms ih =>
    cases m with
    | item a => simp [numbering]
    | reset => exact ih h

lemma nodup_of_fresh (h : Fresh ms) : ((numbering 0 ms).map Prod.fst).Nodup := by
  induction ms with
  | nil => simp [numbering]
  | cons m ms ih =>
    cases m with
    | item a =>
      have hafter : ∀ pre post, item a :: ms = pre ++ reset :: post → items post = [] := by
        intro pre post he
        refine (h pre post he).resolve_left fun hpre => ?_
        cases pre with
        | nil => cases he
        | cons m pre =>
          obtain ⟨rfl, -⟩ := List.cons.inj he
          exact List.cons_ne_nil _ _ hpre
      rw [fst_numbering_of_items_after hafter]
      exact List.nodup_range'
    | reset =>
      refine ih fun pre post he => ?_
      exact h (reset :: pre) post (by rw [he]; rfl)

lemma fresh_of_nodup (h : ((numbering 0 ms).map Prod.fst).Nodup) : Fresh ms := by
  intro pre post he
  by_contra! hne
  rw [he, numbering_append, List.map_append, List.nodup_append] at h
  exact h.2.2 0 (zero_mem_of_items_ne_nil hne.1) 0 (zero_mem_of_items_ne_nil hne.2) rfl

theorem nodup_numbering_iff : ((numbering 0 ms).map Prod.fst).Nodup ↔ Fresh ms :=
  ⟨fresh_of_nodup, nodup_of_fresh⟩

end Mark

end Voyager.Lib
