import Voyager.Optimizer.Semantics

/-! Values of expressions do not depend on the depth nor on nodes added to the arena. -/

namespace Voyager

open Option

attribute [local simp] eval

section

variable {env : Environment} {arena more : QueryAstArena}

lemma mapM_eq_some_mono {α β : Type} {f g : α → Option β} (h : ∀ a b, f a = some b → g a = some b)
    {as : List α} {bs : List β} (hs : as.mapM f = some bs) : as.mapM g = some bs := by
  induction as generalizing bs with
  | nil => simpa using hs
  | cons a as ih =>
    simp only [List.mapM_cons, bind_eq_bind, bind_eq_some_iff, pure_def] at hs ⊢
    obtain ⟨b, hb, rest, hrest, hbs⟩ := hs
    exact ⟨b, h a b hb, rest, ih hrest, hbs⟩

lemma eval_mono (hmore : arena.Grows more) {n m : ℕ} (hnm : n ≤ m) {h : NodeHandle} {v : Value}
    (hv : eval env arena n h = some v) : eval env more m h = some v := by
  induction n generalizing m h v with
  | zero => cases hv
  | succ n ih =>
    obtain ⟨m, rfl⟩ : ∃ k, m = k + 1 := ⟨m - 1, by omega⟩
    have hrec : ∀ h v, eval env arena n h = some v → eval env more m h = some v :=
      fun h v => ih (by omega)
    rw [eval] at hv ⊢
    cases hn : arena.nodes[h]? with
    | none => simp [hn] at hv
    | some node =>
      rw [hn] at hv
      rw [hmore.node hn]
      cases node with
      | propertyAccess target p | unaryExpression op operand =>
        simp only [bind_eq_some_iff] at hv ⊢
        obtain ⟨a, ha, hv⟩ := hv
        exact ⟨a, hrec _ _ ha, hv⟩
      | binaryExpression left op right =>
        simp only [bind_eq_some_iff] at hv ⊢
        obtain ⟨a, ha, b, hb, hv⟩ := hv
        exact ⟨a, hrec _ _ ha, b, hrec _ _ hb, hv⟩
      | functionCall name arguments =>
        simp only [bind_eq_some_iff] at hv ⊢
        obtain ⟨as, has, hv⟩ := hv
        exact ⟨as, mapM_eq_some_mono hrec has, hv⟩
      | listLiteral items =>
        simp only [map_eq_some_iff] at hv ⊢
        obtain ⟨as, has, hv⟩ := hv
        exact ⟨as, mapM_eq_some_mono hrec has, hv⟩
      | _ => exact hv

lemma Evaluates.mono {h : NodeHandle} {v : Value} (hv : Evaluates env arena h v) (hmore : arena.Grows more) :
    Evaluates env more h v := by
  obtain ⟨n, hn⟩ := hv
  exact ⟨n, eval_mono hmore le_rfl hn⟩

variable {h : NodeHandle} {v : Value}

lemma Evaluates.node (hv : Evaluates env arena h v) : ∃ n, arena.nodes[h]? = some n := by
  obtain ⟨n, hn⟩ := hv
  cases n with
  | zero => cases hn
  | succ n =>
    rw [eval] at hn
    cases hnode : arena.nodes[h]? with
    | none => simp [hnode] at hn
    | some node => exact ⟨node, rfl⟩

lemma evaluates_literal {lit : LiteralValue} (hn : arena.nodes[h]? = some (.literal lit)) :
    Evaluates env arena h v ↔ Value.ofLiteral env lit = some v := by
  constructor
  · rintro ⟨n, hv⟩
    cases n with
    | zero => cases hv
    | succ n => simpa [hn] using hv
  · intro hv
    exact ⟨1, by simpa [hn] using hv⟩

lemma evaluates_binary {left right : NodeHandle} {op : BinaryOp}
    (hn : arena.nodes[h]? = some (.binaryExpression left op right)) :
    Evaluates env arena h v ↔
      ∃ a b, Evaluates env arena left a ∧ Evaluates env arena right b ∧ Value.binary env op a b = some v := by
  constructor
  · rintro ⟨n, hv⟩
    cases n with
    | zero => cases hv
    | succ n =>
      simp only [eval, hn, bind_eq_some_iff] at hv
      obtain ⟨a, ha, b, hb, hv⟩ := hv
      exact ⟨a, b, ⟨n, ha⟩, ⟨n, hb⟩, hv⟩
  · rintro ⟨a, b, ⟨n, ha⟩, ⟨m, hb⟩, hv⟩
    refine ⟨max n m + 1, ?_⟩
    simp only [eval, hn, bind_eq_some_iff]
    exact ⟨a, eval_mono (.refl _) (le_max_left n m) ha, b, eval_mono (.refl _) (le_max_right n m) hb, hv⟩

lemma evaluates_unary {operand : NodeHandle} {op : UnaryOp}
    (hn : arena.nodes[h]? = some (.unaryExpression op operand)) :
    Evaluates env arena h v ↔ ∃ a, Evaluates env arena operand a ∧ Value.unary op a = some v := by
  constructor
  · rintro ⟨n, hv⟩
    cases n with
    | zero => cases hv
    | succ n =>
      simp only [eval, hn, bind_eq_some_iff] at hv
      obtain ⟨a, ha, hv⟩ := hv
      exact ⟨a, ⟨n, ha⟩, hv⟩
  · rintro ⟨a, ⟨n, ha⟩, hv⟩
    refine ⟨n + 1, ?_⟩
    simp only [eval, hn, bind_eq_some_iff]
    exact ⟨a, ha, hv⟩

variable {vs : List Value}

lemma mapM_eval_of_forall₂ {hs : List NodeHandle} (hvs : List.Forall₂ (Evaluates env arena) hs vs) :
    ∃ n, hs.mapM (eval env arena n) = some vs := by
  induction hvs with
  | nil => exact ⟨0, rfl⟩
  | cons hv _ ih =>
    obtain ⟨n, hn⟩ := hv
    obtain ⟨m, hm⟩ := ih
    refine ⟨max n m, ?_⟩
    rw [List.mapM_cons, eval_mono (.refl _) (le_max_left n m) hn,
      mapM_eq_some_mono (fun _ _ => eval_mono (.refl _) (le_max_right n m)) hm]
    rfl

lemma evaluates_call {name : String} {arguments : List NodeHandle}
    (hn : arena.nodes[h]? = some (.functionCall name arguments))
    (hvs : List.Forall₂ (Evaluates env arena) arguments vs) (hv : env.call name vs = some v) :
    Evaluates env arena h v := by
  obtain ⟨n, hmap⟩ := mapM_eval_of_forall₂ hvs
  exact ⟨n + 1, by simp [hn, hmap, hv]⟩

lemma evaluates_list {items : List NodeHandle} (hn : arena.nodes[h]? = some (.listLiteral items))
    (hvs : List.Forall₂ (Evaluates env arena) items vs) : Evaluates env arena h (.list vs) := by
  obtain ⟨n, hmap⟩ := mapM_eval_of_forall₂ hvs
  exact ⟨n + 1, by simp [hn, hmap]⟩

end

end Voyager
