import Mathlib.Tactic

/-! Tasks that run in turns, each named by its place in a list of their states, and what they hold together. -/

namespace Voyager.Lib.Tasks

open List

variable {τ : Type} (f : τ → ℕ)

def load (tasks : List τ) : ℕ := (tasks.map f).sum

lemma load_append (tasks : List τ) (t : τ) : load f (tasks ++ [t]) = load f tasks + f t := by
  simp [load]

lemma load_set {tasks : List τ} {i : ℕ} {t : τ} (h : tasks[i]? = some t) (t' : τ) :
    load f (tasks.set i t') + f t = load f tasks + f t' := by
  induction tasks generalizing i with
  | nil => simp at h
  | cons u tasks ih =>
    cases i with
    | zero =>
      obtain rfl : u = t := by simpa using h
      simp only [load, set_cons_zero, map_cons, sum_cons]
      omega
    | succ i =>
      have := ih (i := i) (by simpa using h)
      simp only [load, set_cons_succ, map_cons, sum_cons] at this ⊢
      omega

lemma load_le_load {g : τ → ℕ} {tasks : List τ} (h : ∀ t ∈ tasks, f t ≤ g t) : load f tasks ≤ load g tasks :=
  sum_le_sum h

lemma load_eq_zero {tasks : List τ} (h : ∀ t ∈ tasks, f t = 0) : load f tasks = 0 := by
  rw [load, sum_eq_zero_iff]
  simpa using h

end Voyager.Lib.Tasks
