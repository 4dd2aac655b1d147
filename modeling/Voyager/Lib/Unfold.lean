import Mathlib.Tactic

/-! Trees that are stored in pieces: a node has a label and names its children by their addresses. -/

namespace Voyager.Lib

variable {ι κ N L : Type*}

inductive Unfolding (L : Type*)
  | cut
  | absent
  | node (label : L) (children : List (Unfolding L))

structure Reading (ι N L : Type*) where
  label : N → L
  children : N → List ι

namespace Reading

def unfold (view : Reading ι N L) (store : ι → Option N) : ℕ → ι → Unfolding L
  | 0, _ => .cut
  | depth + 1, i =>
    match store i with
    | none => .absent
    | some n => .node (view.label n) ((view.children n).map (unfold view store depth))

variable (view : Reading ι N L) (view' : Reading κ N L)

def Child (store : ι → Option N) (i j : ι) : Prop := ∃ n, store i = some n ∧ j ∈ view.children n

def Under (store : ι → Option N) (P : ι → Prop) (i : ι) : Prop :=
  ∀ j, Relation.ReflTransGen (view.Child store) i j → P j

variable {view view'} {store : ι → Option N} {store' : κ → Option N} {P : ι → Prop} {f : ι → κ}

lemma Under.self {i : ι} (h : view.Under store P i) : P i := h i .refl

lemma Under.child {i j : ι} (h : view.Under store P i) (hj : view.Child store i j) : view.Under store P j :=
  fun k hk => h k (.head hj hk)

theorem unfold_map (hsome : ∀ i n, P i → store i = some n → ∃ m, store' (f i) = some m ∧
      view'.label m = view.label n ∧ view'.children m = (view.children n).map f)
    (hnone : ∀ i, P i → store i = none → store' (f i) = none) (depth : ℕ) {i : ι} (hi : view.Under store P i) :
    view'.unfold store' depth (f i) = view.unfold store depth i := by
  induction depth generalizing i with
  | zero => rfl
  | succ depth ih =>
    cases hstore : store i with
    | none => rw [unfold, unfold, hnone i hi.self hstore, hstore]
    | some n =>
      obtain ⟨m, hm, hlabel, hchildren⟩ := hsome i n hi.self hstore
      have htrees : ((view.children n).map f).map (view'.unfold store' depth) =
          (view.children n).map (view.unfold store depth) := by
        rw [List.map_map]
        apply List.map_congr_left
        intro j hj
        exact ih (hi.child ⟨n, hstore, hj⟩)
      rw [unfold, unfold, hm, hstore]
      simp only [hlabel, hchildren, htrees]

end Reading

end Voyager.Lib
