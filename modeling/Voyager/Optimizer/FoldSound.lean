import Voyager.Optimizer.Evaluation
import Voyager.Optimizer.FoldLaws

namespace Voyager.AstOptimizer

open Option Returns

lemma compositional_evaluates (env : Environment) : Compositional env (Evaluates env) where
  mono := Evaluates.mono
  node := Evaluates.node
  literal := evaluates_literal
  binary := evaluates_binary
  unary := evaluates_unary

section

variable {env : Environment} {arena : QueryAstArena} {a v : Value}

def Yields (env : Environment) (arena : QueryAstArena) (m : OptM NodeHandle) (v : Value) : Prop :=
  ∃ h arena', m arena = .ok (h, arena') ∧ arena.Grows arena' ∧ Evaluates env arena' h v

variable {f : NodeHandle → OptM NodeHandle} {h : NodeHandle} {hs : List NodeHandle} {vs : List Value}

section

variable {n : ℕ} (hf : ∀ arena h v, eval env arena n h = some v → Yields env arena (f h) v)
  (hvs : hs.mapM (eval env arena n) = some vs)

include hf hvs

lemma mapM_yields : ∃ hs' arena', hs.mapM f arena = .ok (hs', arena') ∧ arena.Grows arena' ∧
      List.Forall₂ (Evaluates env arena') hs' vs := by
  induction hs generalizing arena vs with
  | nil =>
    cases hvs
    exact ⟨[], arena, rfl, .refl arena, .nil⟩
  | cons h hs ih =>
    simp only [List.mapM_cons, bind_eq_bind, bind_eq_some_iff, pure_def,
      Option.some.injEq] at hvs
    obtain ⟨v, hv, vs, hrest, rfl⟩ := hvs
    obtain ⟨h', arena', hok, hgrows, hv'⟩ := hf arena h v hv
    have hrest' := mapM_eq_some_mono (fun _ _ => eval_mono hgrows le_rfl) hrest
    obtain ⟨hs', arena'', hok', hgrows', hvs'⟩ := ih hrest'
    refine ⟨h' :: hs', arena'', ?_, hgrows.trans hgrows', .cons (hv'.mono hgrows') hvs'⟩
    rw [List.mapM_cons]
    exact Lib.bind_ok.mpr ⟨h', arena', hok, Lib.bind_ok.mpr ⟨hs', arena'', hok', rfl⟩⟩

lemma Yields.mapM_bind {g : List NodeHandle → OptM NodeHandle}
    (hg : ∀ hs' arena', List.Forall₂ (Evaluates env arena') hs' vs → Yields env arena' (g hs') v) :
    Yields env arena (hs.mapM f >>= g) v := by
  obtain ⟨hs', arena', hok, hgrows, hvs'⟩ := mapM_yields hf hvs
  obtain ⟨h, arena'', hok', hgrows', hv⟩ := hg hs' arena' hvs'
  exact ⟨h, arena'', Lib.bind_ok.mpr ⟨hs', arena', hok, hok'⟩, hgrows.trans hgrows', hv⟩

end

lemma forall₂_evaluates_mono {arena' : QueryAstArena} (hgrows : arena.Grows arena')
    (hvs : List.Forall₂ (Evaluates env arena) hs vs) :
    List.Forall₂ (Evaluates env arena') hs vs :=
  hvs.imp fun _ _ hv => hv.mono hgrows

lemma foldExpression_yields {n fuel : ℕ} (hfuel : n ≤ fuel) (hv : eval env arena n h = some v) :
    Yields env arena ((folds fuel).expression h) v := by
  induction n generalizing fuel arena h v with
  | zero => cases hv
  | succ n ih =>
    obtain ⟨fuel, rfl⟩ : ∃ k, fuel = k + 1 := ⟨fuel - 1, by omega⟩
    have hrec : ∀ arena h v, eval env arena n h = some v → Yields env arena ((folds fuel).expression h) v :=
      fun arena h v => ih (by omega)
    have hsame : Yields env arena (Pure.pure h) v := pure ⟨n + 1, hv⟩
    change Yields env arena (foldExpression (folds fuel) h) v
    unfold foldExpression
    split
    · exact hsame
    · obtain ⟨node, hn⟩ := Evaluates.node ⟨n + 1, hv⟩
      refine getNode_bind hn ?_
      simp only [eval, hn] at hv
      cases node with
      | binaryExpression left op right =>
        simp only [bind_eq_some_iff] at hv
        obtain ⟨a, ha, b, hb, hv⟩ := hv
        refine bind (hrec arena left a ha) fun left' arena₁ hgrows₁ hleft => ?_
        refine bind (hrec arena₁ right b (eval_mono hgrows₁ le_rfl hb)) fun right' arena₂ hgrows₂ hright => ?_
        exact (compositional_evaluates env).foldBinaryOp_returns (hleft.mono hgrows₂) hright hv
      | unaryExpression op operand =>
        simp only [bind_eq_some_iff] at hv
        obtain ⟨a, ha, hv⟩ := hv
        exact bind (hrec arena operand a ha) fun _ _ _ hoperand =>
          (compositional_evaluates env).foldUnaryOp_returns hoperand hv
      | functionCall name arguments =>
        simp only [bind_eq_some_iff] at hv
        obtain ⟨vs, hvs, hv⟩ := hv
        refine Yields.mapM_bind hrec hvs fun hs' arena' hvs' => Returns.alloc ?_
        exact evaluates_call (arena'.alloc_node _) (forall₂_evaluates_mono (arena'.grows_alloc _) hvs') hv
      | listLiteral items =>
        simp only [map_eq_some_iff] at hv
        obtain ⟨vs, hvs, rfl⟩ := hv
        refine Yields.mapM_bind hrec hvs fun hs' arena' hvs' => Returns.alloc ?_
        exact evaluates_list (arena'.alloc_node _) (forall₂_evaluates_mono (arena'.grows_alloc _) hvs')
      | literal | parameter | identifier | nodePattern | edgePattern | propertyAccess => exact hsame
      | _ => cases hv

end

theorem foldExpression_preserves_value (env : Environment) (arena : QueryAstArena) (depth fuel : ℕ)
    (h : NodeHandle) (v : Value) (hfuel : depth ≤ fuel) (hv : eval env arena depth h = some v) :
    ∃ h' arena', (folds fuel).expression h arena = .ok (h', arena') ∧ Evaluates env arena' h' v := by
  obtain ⟨h', arena', hok, -, hv'⟩ := foldExpression_yields hfuel hv
  exact ⟨h', arena', hok, hv'⟩

def nestedSum : QueryAstArena where
  nodes := [.parameter "x", .literal (.int64 10), .binaryExpression 0 .add 1, .literal (.int64 20),
    .binaryExpression 2 .add 3]

def sampleEnvironment : Environment where
  var _ := .null
  param _ := .int 5
  property _ _ := some .null
  call _ _ := none
  operate _ _ _ := none
  composite _ := none

theorem foldExpression_preserves_nestedSum : ∃ h' arena',
    (folds 3).expression 4 nestedSum = .ok (h', arena') ∧ Evaluates sampleEnvironment arena' h' (.int 35) :=
  foldExpression_preserves_value sampleEnvironment nestedSum 3 3 4 (.int 35) le_rfl rfl

end Voyager.AstOptimizer
