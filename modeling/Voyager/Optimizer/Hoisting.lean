import Voyager.Optimizer.Conjuncts

namespace Voyager.AstOptimizer

open Lib (bind_ok)

def Attempts (P : QueryAstArena → QueryAstArena → Prop) (m : OptM Bool) : Prop :=
  ∀ a b a', m a = .ok (b, a') → b = true ∧ P a a' ∨ b = false ∧ a' = a

namespace Attempts

variable {P Q : QueryAstArena → QueryAstArena → Prop} {m m' : OptM Bool}

lemma pureFalse : Attempts P (pure false) := by
  intro a b a' hok
  cases hok
  exact .inr ⟨rfl, rfl⟩

lemma throw (e : Error) : Attempts P (MonadExcept.throw e) := by
  intro a b a' hok
  cases hok

lemma mono (hm : Attempts P m) (himp : ∀ a a', P a a' → Q a a') : Attempts Q m :=
  fun a b a' hok => (hm a b a' hok).imp_left fun h => ⟨h.1, himp a a' h.2⟩

lemma orElse (hm : Attempts P m) (hm' : Attempts P m') : Attempts P (do if ← m then pure true else m') := by
  intro a b a' hok
  obtain ⟨done, a₁, hfirst, hrest⟩ := bind_ok.mp hok
  rcases hm a done a₁ hfirst with ⟨rfl, hP⟩ | ⟨rfl, rfl⟩
  · cases hrest
    exact .inl ⟨rfl, hP⟩
  · exact hm' a₁ b a' hrest

lemma getNode_bind {h : NodeHandle} {f : AstNode → OptM Bool}
    (hf : ∀ n, Attempts (fun a a' => a.nodes[h]? = some n → P a a') (f n)) : Attempts P (getNode h >>= f) := by
  intro a b a' hok
  obtain ⟨n, a₁, hget, hrest⟩ := bind_ok.mp hok
  obtain ⟨hn, rfl⟩ := getNode_ok hget
  exact (hf n a₁ b a' hrest).imp_left fun h => ⟨h.1, h.2 hn⟩

lemma read_bind {α : Type} {g : QueryAstArena → Except Error α} {f : α → OptM Bool}
    (hf : ∀ v, Attempts (fun a a' => g a = .ok v → P a a') (f v)) :
    Attempts P (do let v ← liftM (g (← get)); f v) := by
  intro a b a' hok
  obtain ⟨_, _, hget, hok⟩ := bind_ok.mp hok
  cases hget
  obtain ⟨v, a₁, hread, hrest⟩ := bind_ok.mp hok
  obtain ⟨hv, rfl⟩ := Lib.lift_ok.mp hread
  exact (hf v a₁ b a' hrest).imp_left fun h => ⟨h.1, h.2 hv⟩

lemma anyM {ι : Type} {P : ι → QueryAstArena → QueryAstArena → Prop} {f : ι → OptM Bool}
    (hf : ∀ x, Attempts (P x) (f x)) (xs : List ι) : Attempts (fun a a' => ∃ x ∈ xs, P x a a') (xs.anyM f) := by
  induction xs with
  | nil => exact pureFalse
  | cons x xs ih =>
    have hrest : Attempts (fun a a' => ∃ y ∈ x :: xs, P y a a') (xs.anyM f) :=
      ih.mono fun a a' ⟨y, hy, hP⟩ => ⟨y, List.mem_cons_of_mem x hy, hP⟩
    have hfirst : Attempts (fun a a' => ∃ y ∈ x :: xs, P y a a') (f x) :=
      (hf x).mono fun a a' hP => ⟨x, List.mem_cons_self, hP⟩
    intro a b a' hok
    obtain ⟨done, a₁, hx, hxs⟩ := bind_ok.mp hok
    rcases hfirst a done a₁ hx with ⟨rfl, hP⟩ | ⟨rfl, rfl⟩
    · cases hxs
      exact .inl ⟨rfl, hP⟩
    · exact hrest a₁ b a' hxs

end Attempts

structure Pushed (x : String) (pred k : NodeHandle) (a a' : QueryAstArena) : Prop where
  node : ∃ labels predicates, a.nodes[k]? = some (.nodePattern (some x) labels predicates) ∧
    a' = ⟨a.nodes.set k (.nodePattern (some x) labels (predicates ++ [pred]))⟩

def PushedIn (x : String) (pred path : NodeHandle) (a a' : QueryAstArena) : Prop :=
  ∃ k ∈ patternNodes a path, Pushed x pred k a a'

section

variable {x : String} {pred : NodeHandle} {fuel : ℕ}

lemma pushed_of_modifyNode {path : NodeHandle} {labels : Option LabelExpression} {predicates : List NodeHandle} :
    Attempts (fun a a' => a.nodes[path]? = some (.nodePattern (some x) labels predicates) → PushedIn x pred path a a')
      (do modifyNode path (pushPredicate pred); pure true) := by
  intro a b a' hok
  obtain ⟨u, a₁, hmodify, hrest⟩ := bind_ok.mp hok
  obtain ⟨n, hn, rfl⟩ := modifyNode_ok hmodify
  cases hrest
  refine .inl ⟨rfl, fun hnode => ?_⟩
  obtain rfl := Option.some.inj (hn.symm.trans hnode)
  exact ⟨path, .refl, ⟨labels, predicates, hnode, rfl⟩⟩

lemma hoistPredicateToPath_attempts (path : NodeHandle) :
    Attempts (PushedIn x pred path) (hoistPredicateToPath x pred fuel path) := by
  induction fuel generalizing path with
  | zero => exact .throw _
  | succ fuel ih =>
    refine .getNode_bind fun n => ?_
    cases n with
    | nodePattern var labels predicates =>
      by_cases hvar : var = some x
      · subst hvar
        simp only [if_true]
        exact pushed_of_modifyNode
      · simp only [hvar, if_false]
        exact .pureFalse
    | pathChain pathVariable mode startNode edges =>
      have hedges := Attempts.anyM (fun edge => Attempts.getNode_bind
        (P := fun a a' => ∃ n, a.nodes[edge]? = some n ∧ ∃ target ∈ edgeTarget n, PushedIn x pred target a a')
        fun n => (Attempts.anyM ih (edgeTarget n)).mono fun a a' h hn => ⟨n, hn, h⟩) edges
      refine .orElse ((ih startNode).mono fun a a' => ?_) (hedges.mono fun a a' => ?_)
      · rintro ⟨k, hk, hpushed⟩ hn
        exact ⟨k, .head (.start hn) hk, hpushed⟩
      · rintro ⟨edge, hedge, n, hedgeNode, target, htarget, k, hk, hpushed⟩ hn
        exact ⟨k, .head (.target hn hedge hedgeNode htarget) hk, hpushed⟩
    | _ => exact .pureFalse

lemma hoistToPaths_attempts (paths : List NodeHandle) :
    Attempts (fun a a' => ∃ path ∈ paths, PushedIn x pred path a a') (hoistToPaths x pred fuel paths) :=
  .anyM hoistPredicateToPath_attempts paths

def PushedInMatch (x : String) (pred h : NodeHandle) (a a' : QueryAstArena) : Prop :=
  ∃ paths condition, a.nodes[h]? = some (.matchClause false paths condition) ∧
    ∃ path ∈ paths, PushedIn x pred path a a'

lemma hoistToMatch_attempts (h : NodeHandle) : Attempts (PushedInMatch x pred h) (hoistToMatch x pred fuel h) := by
  refine .getNode_bind fun n => ?_
  split
  · rename_i paths condition
    exact (hoistToPaths_attempts paths).mono fun a a' hpushed hn => ⟨paths, condition, hn, hpushed⟩
  · exact .pureFalse

def Hoisted (fuel : ℕ) (optional : Bool) (paths previous : List NodeHandle) (conjunct : NodeHandle)
    (a a' : QueryAstArena) : Prop :=
  ∃ x, extractSingleNodeEqualityVar a fuel conjunct = .ok (some x) ∧
    ((∃ path ∈ paths, PushedIn x conjunct path a a') ∨
      optional = false ∧ ∃ h ∈ previous, PushedInMatch x conjunct h a a')

lemma hoistConjunct_attempts (optional : Bool) (paths previous : List NodeHandle) (conjunct : NodeHandle) :
    Attempts (Hoisted fuel optional paths previous conjunct)
      (hoistConjunct fuel optional paths previous conjunct) := by
  refine .read_bind fun found => ?_
  cases found with
  | none => exact .pureFalse
  | some x =>
    refine .orElse ((hoistToPaths_attempts paths).mono fun a a' hpushed hx => ⟨x, hx, .inl hpushed⟩) ?_
    cases optional with
    | true => exact .pureFalse
    | false =>
      exact (Attempts.anyM hoistToMatch_attempts previous).mono
        fun a a' hpushed hx => ⟨x, hx, .inr ⟨rfl, hpushed⟩⟩

end

end Voyager.AstOptimizer
