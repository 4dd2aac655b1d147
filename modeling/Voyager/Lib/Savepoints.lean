import Mathlib.Tactic

/-! States that were saved while a state was growing, oldest first. -/

namespace Voyager.Lib

open List

section

variable {α : Type*} (p : α → Bool)

def rposition : (l : List α) → Option (Fin l.length)
  | [] => none
  | x :: xs =>
    match rposition xs with
    | some pos => some pos.succ
    | none => if p x then some ⟨0, Nat.succ_pos _⟩ else none

variable {p}

lemma rposition_eq_none {l : List α} (h : ∀ x ∈ l, p x = false) : rposition p l = none := by
  induction l with
  | nil => rfl
  | cons x xs ih =>
    obtain ⟨hx, hxs⟩ := forall_mem_cons.mp h
    simp only [rposition, ih hxs, hx, Bool.false_eq_true, if_false]

lemma rposition_append {earlier later : List α} {x : α} (hlater : ∀ y ∈ later, p y = false) (hx : p x = true) :
    rposition p (earlier ++ x :: later) = some ⟨earlier.length, by simp⟩ := by
  induction earlier with
  | nil => simp [rposition, rposition_eq_none hlater, hx]
  | cons y ys ih =>
    simp only [cons_append, rposition, ih]
    rfl

variable (p) in
lemma exists_latest (l : List α) : (∀ x ∈ l, p x = false) ∨
      ∃ earlier x later, l = earlier ++ x :: later ∧ p x = true ∧ ∀ y ∈ later, p y = false := by
  induction l with
  | nil => exact .inl (by simp)
  | cons x xs ih =>
    rcases ih with hnone | ⟨earlier, y, later, rfl, hy, hlater⟩
    · rcases hx : p x with _ | _
      · exact .inl (forall_mem_cons.mpr ⟨hx, hnone⟩)
      · exact .inr ⟨[], x, xs, rfl, hx, hnone⟩
    · exact .inr ⟨x :: earlier, y, later, rfl, hy, hlater⟩

end

section

variable {σ : Type*} [Preorder σ]

def Nested (saved : List σ) (now : σ) : Prop := (saved ++ [now]).Pairwise (· ≤ ·)

variable {saved : List σ} {now next s : σ}

lemma nested_nil (now : σ) : Nested [] now := pairwise_singleton _ _

lemma nested_iff : Nested saved now ↔ saved.Pairwise (· ≤ ·) ∧ ∀ s ∈ saved, s ≤ now := by
  simp [Nested, pairwise_append]

lemma Nested.le (h : Nested saved now) (hs : s ∈ saved) : s ≤ now := (nested_iff.mp h).2 s hs

lemma Nested.grow (h : Nested saved now) (hnext : now ≤ next) : Nested saved next := by
  obtain ⟨hsaved, hnow⟩ := nested_iff.mp h
  exact nested_iff.mpr ⟨hsaved, fun s hs => (hnow s hs).trans hnext⟩

lemma Nested.save (h : Nested saved now) : Nested (saved ++ [now]) now := by
  apply nested_iff.mpr
  refine ⟨h, ?_⟩
  intro s hs
  rcases mem_append.mp hs with hs | hs
  · exact h.le hs
  · exact (mem_singleton.mp hs).le

variable {earlier later : List σ} (h : Nested (earlier ++ s :: later) now)

include h

lemma Nested.restore : Nested (earlier ++ [s]) s := by
  apply Nested.save
  apply List.Pairwise.sublist _ (nested_iff.mp h).1
  exact List.Sublist.append (List.Sublist.refl _) (cons_sublist_cons.mpr (nil_sublist _))

lemma Nested.release : Nested (earlier ++ later) now := by
  apply List.Pairwise.sublist _ h
  exact ((sublist_cons_self s later).append_left earlier).append_right [now]

end

end Voyager.Lib
