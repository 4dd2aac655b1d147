import Voyager.Optimizer.Rows

/-! Values, conditions and paths depend only on what is read for them. -/

namespace Voyager

open List

open AstOptimizer (PatternStep patternNodes)

def AstNode.isPattern : AstNode → Bool
  | .nodePattern .. | .edgePattern .. => true
  | _ => false

variable {n : AstNode}

namespace Position

variable {n' : AstNode}

lemma view_expression_of_not_pattern (hpattern : n.isPattern = false) (h : view expression n' = view expression n) :
    n' = n := by
  have hn : view expression n = n := by
    cases n <;> first | rfl | cases hpattern
  rw [hn] at h
  subst h
  cases n' <;> first | rfl | cases hpattern

lemma view_expression_nodePattern {var labels predicates}
    (h : view expression n' = view expression (.nodePattern var labels predicates)) :
    ∃ labels' predicates', n' = .nodePattern var labels' predicates' := by
  cases n' with
  | nodePattern var' labels' predicates' =>
    simp only [view, AstNode.nodePattern.injEq, and_true] at h
    exact ⟨labels', predicates', by rw [h]⟩
  | _ => simp [view] at h

lemma view_expression_edgePattern {var labels direction minHops maxHops predicates target}
    (h : view expression n' = view expression (.edgePattern var labels direction minHops maxHops predicates target)) :
    ∃ labels' direction' minHops' maxHops' predicates' target',
      n' = .edgePattern var labels' direction' minHops' maxHops' predicates' target' := by
  cases n' with
  | edgePattern var' labels' direction' minHops' maxHops' predicates' target' =>
    simp only [view, AstNode.edgePattern.injEq, and_true] at h
    exact ⟨labels', direction', minHops', maxHops', predicates', target', by rw [h]⟩
  | _ => simp [view] at h

lemma view_skeleton_nodePattern {var labels predicates}
    (h : view skeleton n' = view skeleton (.nodePattern var labels predicates)) :
    ∃ predicates', n' = .nodePattern var labels predicates' := by
  cases n' with
  | nodePattern var' labels' predicates' =>
    simp only [view, AstNode.nodePattern.injEq, and_true] at h
    exact ⟨predicates', by rw [h.1, h.2]⟩
  | _ => simp [view] at h

lemma view_skeleton_of_not_pattern (hnode : ∀ var labels predicates, n ≠ .nodePattern var labels predicates)
    (h : view skeleton n' = view skeleton n) : n' = n := by
  have hn : view skeleton n = n := by
    cases n <;> first | rfl | exact absurd rfl (hnode _ _ _)
  rw [hn] at h
  cases n' with
  | nodePattern => exact absurd h.symm (hnode _ _ _)
  | _ => exact h

end Position

section

variable {a b : QueryAstArena} {sites : Set Site}

variable {k : NodeHandle}

lemma SameView.expression (h : SameView sites a b) (hk : (.expression, k) ∈ sites) (hn : a.nodes[k]? = some n)
    (hpattern : n.isPattern = false := by rfl) : b.nodes[k]? = some n := by
  obtain ⟨n', hn', hview⟩ := h.node hk hn
  rw [hn', Position.view_expression_of_not_pattern hpattern hview]

lemma SameView.skeleton (h : SameView sites a b) (hk : (.skeleton, k) ∈ sites) (hn : a.nodes[k]? = some n)
    (hnode : ∀ var labels predicates, n ≠ .nodePattern var labels predicates := by simp) :
    b.nodes[k]? = some n := by
  obtain ⟨n', hn', hview⟩ := h.node hk hn
  rw [hn', Position.view_skeleton_of_not_pattern hnode hview]

variable {path : NodeHandle}

section

variable (hclosed : Closed a sites) (hview : SameView sites a b)

include hclosed hview

lemma patternStep_congr (h : PatternStep a path k) (hpath : (.skeleton, path) ∈ sites) :
    PatternStep b path k ∧ (.skeleton, k) ∈ sites := by
  cases h with
  | start hn => exact ⟨.start (hview.skeleton hpath hn), hclosed.body hpath hn mem_cons_self⟩
  | @target _ _ _ _ _ _ n hn hedge hedgeNode htarget =>
    have hsite := hclosed.body hpath hn (mem_cons_of_mem _ hedge)
    cases n with
    | edgePattern =>
      exact ⟨.target (hview.skeleton hpath hn) hedge (hview.skeleton hsite hedgeNode) htarget,
        hclosed.body hsite hedgeNode htarget⟩
    | _ => cases htarget

lemma mem_patternNodes_congr (h : k ∈ patternNodes a path) (hpath : (.skeleton, path) ∈ sites) :
    k ∈ patternNodes b path ∧ (.skeleton, k) ∈ sites := by
  induction h with
  | refl => exact ⟨.refl, hpath⟩
  | tail _ hstep ih =>
    obtain ⟨hstep', hk⟩ := patternStep_congr hclosed hview hstep ih.2
    exact ⟨ih.1.tail hstep', hk⟩

lemma patternNodes_congr (hpath : (.skeleton, path) ∈ sites) : patternNodes a path = patternNodes b path := by
  ext k
  exact ⟨fun h => (mem_patternNodes_congr hclosed hview h hpath).1,
    fun h => (mem_patternNodes_congr (hclosed.congr hview) hview.symm h hpath).1⟩

end

end

namespace Interpretation

variable {V : Type} {I : Interpretation V} {a b : QueryAstArena} {sites : Set Site} {r : Row V} {h : NodeHandle}

lemma Denotes.congr (hclosed : Closed a sites) (hview : SameView sites a b) {v : V} (hv : I.Denotes a r h v)
    (hh : (.expression, h) ∈ sites) : I.Denotes b r h v := by
  induction hv with
  | literal hn => exact .literal (hview.expression hh hn)
  | parameter hn => exact .parameter (hview.expression hh hn)
  | identifier hn => exact .identifier (hview.expression hh hn)
  | nodePattern hn =>
    obtain ⟨n', hn', hsame⟩ := hview.node hh hn
    obtain ⟨labels', predicates', rfl⟩ := Position.view_expression_nodePattern hsame
    exact .nodePattern hn'
  | edgePattern hn =>
    obtain ⟨n', hn', hsame⟩ := hview.node hh hn
    obtain ⟨_, _, _, _, _, _, rfl⟩ := Position.view_expression_edgePattern hsame
    exact .edgePattern hn'
  | property hn _ ih =>
    exact .property (hview.expression hh hn) (ih (hclosed.operand hh hn mem_cons_self))
  | unary hn _ ih => exact .unary (hview.expression hh hn) (ih (hclosed.operand hh hn mem_cons_self))
  | binary hn _ _ ihl ihr =>
    exact .binary (hview.expression hh hn) (ihl (hclosed.operand hh hn mem_cons_self))
      (ihr (hclosed.operand hh hn (mem_cons_of_mem _ mem_cons_self)))
  | call hn hlength _ ih =>
    refine .call (hview.expression hh hn) hlength fun p hp => ih p hp ?_
    exact hclosed.operand hh hn (of_mem_zip hp).1
  | list hn hlength _ ih =>
    refine .list (hview.expression hh hn) hlength fun p hp => ih p hp ?_
    exact hclosed.operand hh hn (of_mem_zip hp).1
  | condition hn _ ih => exact .condition (hview.expression hh hn) (ih (hclosed.operand hh hn mem_cons_self))
  | @block h n v hn hblock hv =>
    have hn' : b.nodes[h]? = some n := by
      cases n with
      | nodePattern | edgePattern => cases hblock
      | _ => exact hview.expression hh hn
    rw [I.block_congr a b sites h hclosed hview hh] at hv
    exact .block hn' hblock hv

lemma holds_congr (hclosed : Closed a sites) (hview : SameView sites a b) (hh : (.expression, h) ∈ sites) :
    I.Holds a r h ↔ I.Holds b r h := by
  constructor
  · rintro ⟨v, hv, htrue⟩
    exact ⟨v, hv.congr hclosed hview hh, htrue⟩
  · rintro ⟨v, hv, htrue⟩
    exact ⟨v, hv.congr (hclosed.congr hview) hview.symm hh, htrue⟩

lemma holds_and {left right : NodeHandle} (hn : a.nodes[h]? = some (.binaryExpression left .and right)) :
    I.Holds a r h ↔ I.Holds a r left ∧ I.Holds a r right := by
  constructor
  · rintro ⟨v, hv, htrue⟩
    cases hv with
    | binary hm hl hr =>
      cases hn.symm.trans hm
      obtain ⟨hltrue, hrtrue⟩ := (I.isTrue_and _ _).mp htrue
      exact ⟨⟨_, hl, hltrue⟩, ⟨_, hr, hrtrue⟩⟩
    | block hm hblock =>
      cases hn.symm.trans hm
      cases hblock
    | _ hm => cases hn.symm.trans hm
  · rintro ⟨⟨v, hl, hltrue⟩, ⟨w, hr, hrtrue⟩⟩
    exact ⟨_, .binary hn hl hr, (I.isTrue_and v w).mpr ⟨hltrue, hrtrue⟩⟩

lemma holds_where {rootPredicate : NodeHandle} (hn : a.nodes[h]? = some (.whereClause rootPredicate)) :
    I.Holds a r h ↔ I.Holds a r rootPredicate := by
  constructor
  · rintro ⟨v, hv, htrue⟩
    cases hv with
    | condition hm hv =>
      cases hn.symm.trans hm
      exact ⟨v, hv, htrue⟩
    | block hm hblock =>
      cases hn.symm.trans hm
      cases hblock
    | _ hm => cases hn.symm.trans hm
  · rintro ⟨v, hv, htrue⟩
    exact ⟨v, .condition hn hv, htrue⟩

lemma holds_true (hn : a.nodes[h]? = some (.literal (.bool true))) : I.Holds a r h :=
  ⟨_, .literal hn, I.isTrue_true⟩

end Interpretation

end Voyager
