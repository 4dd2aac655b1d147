import Mathlib.Tactic

/-! Programs over a state with exceptions, graded by the list of events a successful run goes through.
A grading says which states a list of events relates; `Tracks` lifts it to programs. -/

namespace Voyager.Lib

structure Grading (σ ε : Type) where
  rel : σ → List ε → σ → Prop
  refl : ∀ s, rel s [] s
  trans : ∀ {s t r u v}, rel s u t → rel t v r → rel s (u ++ v) r

variable {σ ε e α β : Type}

lemma except_bind_ok {x : Except e α} {f : α → Except e β} {b : β} :
    (x >>= f) = .ok b ↔ ∃ a, x = .ok a ∧ f a = .ok b := by
  cases x with
  | error err | ok a => simp [bind, Except.bind]

lemma exists_of_forall₂ {R : α → β → Prop} {xs : List α} {ys : List β} (h : List.Forall₂ R xs ys) {x : α} (hx : x ∈ xs) :
    ∃ y, R x y := by
  induction h with
  | nil => cases hx
  | cons hxy _ ih =>
    rcases List.mem_cons.mp hx with rfl | hx
    · exact ⟨_, hxy⟩
    · exact ih hx

lemma forall₂_of_except_mapM_ok {f : α → Except e β} {xs : List α} {ys : List β} (h : xs.mapM f = .ok ys) :
    List.Forall₂ (fun x y => f x = .ok y) xs ys := by
  induction xs generalizing ys with
  | nil =>
    obtain rfl : [] = ys := Except.ok.inj h
    exact .nil
  | cons x xs ih =>
    rw [List.mapM_cons] at h
    obtain ⟨y, hy, h⟩ := except_bind_ok.mp h
    obtain ⟨ys', hys, h⟩ := except_bind_ok.mp h
    obtain rfl : y :: ys' = ys := Except.ok.inj h
    exact .cons hy (ih hys)

lemma bind_ok {m : StateT σ (Except e) α} {f : α → StateT σ (Except e) β} {s : σ} {r : β × σ} :
    (m >>= f) s = .ok r ↔ ∃ a t, m s = .ok (a, t) ∧ f a t = .ok r := by
  change (m s >>= fun p => f p.1 p.2) = .ok r ↔ _
  rw [except_bind_ok]
  exact Prod.exists

lemma lift_ok {x : Except e α} {s t : σ} {a : α} :
    (liftM x : StateT σ (Except e) α) s = .ok (a, t) ↔ x = .ok a ∧ t = s := by
  change (x >>= fun a => pure (a, s)) = .ok (a, t) ↔ _
  rw [except_bind_ok]
  simp [pure, Except.pure, eq_comm]

def Tracks (G : Grading σ ε) (m : StateT σ (Except e) α) (w : List ε) : Prop :=
  ∀ s a t, m s = .ok (a, t) → G.rel s w t

namespace Tracks

variable {G : Grading σ ε} {m : StateT σ (Except e) α} {f : α → StateT σ (Except e) β} {u v w : List ε}

lemma pure (a : α) : Tracks G (Pure.pure a : StateT σ (Except e) α) [] := by
  intro s b t h
  cases h
  exact G.refl s

lemma throw (err : e) : Tracks G (MonadExcept.throw err : StateT σ (Except e) α) w := by
  intro s b t h
  cases h

lemma modify {g : σ → σ} (hg : ∀ s, G.rel s w (g s)) :
    Tracks G (MonadState.modifyGet fun s => ((), g s) : StateT σ (Except e) Unit) w := by
  intro s b t h
  cases h
  exact hg s

lemma bind (hm : Tracks G m u) (hf : ∀ a, Tracks G (f a) v) : Tracks G (m >>= f) (u ++ v) := by
  intro s b r h
  obtain ⟨a, t, ha, hb⟩ := bind_ok.mp h
  exact G.trans (hm s a t ha) (hf a t b r hb)

lemma silent_bind (hm : Tracks G m []) (hf : ∀ a, Tracks G (f a) w) : Tracks G (m >>= f) w :=
  hm.bind hf

lemma bind_silent (hm : Tracks G m w) (hf : ∀ a, Tracks G (f a) []) : Tracks G (m >>= f) w := by
  simpa using hm.bind hf

lemma lift_bind {x : Except e α} (hf : ∀ a, x = .ok a → Tracks G (f a) w) :
    Tracks G ((liftM x : StateT σ (Except e) α) >>= f) w := by
  intro s b r h
  obtain ⟨a, t, ha, hb⟩ := bind_ok.mp h
  obtain ⟨hx, rfl⟩ := lift_ok.mp ha
  exact hf a hx t b r hb

section

variable {body : α → StateT σ (Except e) PUnit} {events : α → List ε} (hbody : ∀ x, Tracks G (body x) (events x))

include hbody

lemma forM (xs : List α) : Tracks G (xs.forM body) (xs.flatMap events) := by
  induction xs with
  | nil => exact Tracks.pure _
  | cons x xs ih => exact (hbody x).bind fun _ => ih

lemma optionForM (o : Option α) : Tracks G (o.forM body) (o.elim [] events) := by
  cases o with
  | none => exact Tracks.pure _
  | some x => exact hbody x

end

lemma ite {c : Prop} [Decidable c] {n : StateT σ (Except e) α} (hm : Tracks G m w) (hn : Tracks G n w) :
    Tracks G (if c then m else n) w := by
  split
  · exact hm
  · exact hn

end Tracks

end Voyager.Lib
