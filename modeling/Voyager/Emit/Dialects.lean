import Voyager.Emit.Statements

/-! Paths, clauses and statements that the two emitters write each in its own way. -/

namespace Voyager

open Lib (Tracks)

section

variable {c : Callees} {k : Walks} (hc : c.Follow k) (arena : QueryAstArena)

include hc

lemma paths_follow (paths : List NodeHandle) (n : AstNode) (message : String) :
    Follows (if paths.isEmpty then violation message n else separated ", " c.path paths)
      (paths.flatMap k.path) :=
  Tracks.ite (violation_follows _ _ _) (separated_follows _ hc.path paths)

lemma deleted_follow (keyword : String) (targets : List NodeHandle) :
    Follows (do pushStr keyword; separated ", " (c.expression · false) targets)
      (targets.flatMap k.expression) :=
  text_follows _ (arguments_follow hc targets)

variable (h root : NodeHandle)

namespace CypherEmitter

lemma emitEdgePattern_follows : Follows (emitEdgePattern arena c h) (walkEdgePattern arena k h) := by
  refine node_follows fun n hn => ?_
  split
  · rw [walkEdgePattern, hn]
    refine text_follows _ ((emitPredicates_follows hc arena _).bind fun _ => ?_)
    exact text_follows _ (emitNodePattern_follows hc wording arena _)
  · exact violation_follows _ _ _

lemma emitPath_follows : Follows (emitPath arena c h) (walkPath arena k h) := by
  refine node_follows fun n hn => ?_
  rw [walkPath, hn]
  cases n with
  | nodePattern => exact emitNodePattern_follows hc wording arena h
  | pathChain _ _ startNode edges =>
    refine text_follows _ ((emitNodePattern_follows hc wording arena startNode).bind fun _ => ?_)
    exact Tracks.forM (emitEdgePattern_follows hc arena) edges
  | matchClause _ paths _ => exact paths_follow hc paths _ _
  | queryStatement _ _ _ matches_ _ _ _ _ => exact paths_follow hc matches_ _ _
  | _ => exact violation_follows _ _ _

lemma emitMerge_follows : Follows (emitMerge arena c h) (walkClause arena k h) := by
  refine node_follows fun n hn => ?_
  split
  · rw [walkClause, hn]
    refine text_follows _ ((hc.path _).bind fun _ => ?_)
    exact (emitSetList_follows hc arena _ _).bind fun _ => emitSetList_follows hc arena _ _
  · exact violation_follows _ _ _

lemma emitDelete_follows : Follows (emitDelete arena c h) (walkClause arena k h) := by
  refine node_follows fun n hn => ?_
  split
  · rw [walkClause, hn]
    exact deleted_follow hc _ _
  · exact violation_follows _ _ _

lemma emitLoadCsv_follows : Follows (emitLoadCsv arena c h) (walkClause arena k h) := by
  refine node_follows fun n hn => ?_
  split
  · rw [walkClause, hn]
    exact text_follows _ (followed_by_text (hc.expression _ _) _)
  · exact violation_follows _ _ _

lemma emitLinear_follows : Follows (emitLinear arena c h) (walkLinear arena k h) := by
  refine node_follows fun n hn => ?_
  rw [walkLinear, hn]
  cases n with
  | letClause => exact text_follows _ (followed_by_text (hc.expression _ _) _)
  | filterClause => exact text_follows _ (hc.expression _ _)
  | _ => exact Tracks.pure _

lemma visitQuery_compiles : Compiles (visitQuery arena c root) (walkStatement arena k true root) := by
  refine Finishes.compiles fun n hn => ?_
  rw [walkStatement, hn]
  cases n with
  | queryStatement mode loadCsv unwinds matches_ linearClauses withClauses mutations returnClause =>
    refine Finishes.silent_bind (emitExecutionMode_follows mode) fun _ => ?_
    refine Finishes.bind (Tracks.optionForM (emitLoadCsv_follows hc arena) loadCsv) fun _ => ?_
    refine Finishes.bind (spaced_follows (emitUnwind_follows hc arena) _ unwinds) fun _ => ?_
    refine Finishes.bind (spaced_follows (emitMatch_follows hc arena) _ matches_) fun _ => ?_
    refine Finishes.bind (spaced_follows (emitLinear_follows hc arena) _ linearClauses) fun _ => ?_
    refine Finishes.bind (spaced_follows (emitWith_follows hc wording arena) _ withClauses) fun _ => ?_
    refine Finishes.bind (spaced_follows (emitMutation_follows hc wording arena
      (emitMerge_follows hc arena) (emitDelete_follows hc arena)) _ mutations) fun _ => ?_
    exact Finishes.bind_finish (emitReturnClause_follows hc wording arena returnClause) mode id
  | procedureCall mode ns procedure arguments yieldItems =>
    refine Finishes.silent_bind (emitExecutionMode_follows mode) fun _ => ?_
    exact Finishes.bind_finish (emitCall_follows hc ns procedure arguments yieldItems) mode _
  | _ => exact Finishes.throw _ _

end CypherEmitter

namespace IsoGqlEmitter

lemma emitEdge_follows (quantified : Bool) (h : NodeHandle) :
    Follows (emitEdge arena c quantified h) (walkEdgePattern arena k h) := by
  refine node_follows fun n hn => ?_
  split
  · rw [walkEdgePattern, hn]
    refine text_follows _ ((emitPredicates_follows hc arena _).bind fun _ => ?_)
    exact text_follows _ (emitNodePattern_follows hc wording arena _)
  · exact violation_follows _ _ _

omit hc in
lemma soleQuantifier_eq {edges : List NodeHandle} {edge : NodeHandle} {text : String}
    (h : soleQuantifier arena edges = .ok (some (edge, text))) : edges = [edge] := by
  unfold soleQuantifier at h
  split at h
  · rename_i e
    cases hget : arena.get e with
    | error err => simp [hget, bind, Except.bind] at h
    | ok n =>
      simp only [hget, bind, Except.bind, pure, Except.pure] at h
      split at h
      · simp only [Except.ok.injEq, Option.ite_none_right_eq_some, Option.some.injEq, Prod.mk.injEq] at h
        rw [h.2.1]
      · cases h
  · cases h

lemma emitPath_follows : Follows (emitPath arena c h) (walkPath arena k h) := by
  refine node_follows fun n hn => ?_
  rw [walkPath, hn]
  cases n with
  | nodePattern => exact emitNodePattern_follows hc wording arena h
  | pathChain _ _ startNode edges =>
    refine text_follows _ (text_follows _ (Tracks.lift_bind fun sole hsole => ?_))
    have hstart := emitNodePattern_follows hc wording arena startNode
    cases sole with
    | some sole =>
      -- the chain has one edge, which is written without its quantifier
      have hedge : edges.flatMap (walkEdgePattern arena k) = walkEdgePattern arena k sole.1 := by
        rw [soleQuantifier_eq arena hsole, List.flatMap_singleton]
      refine text_follows _ (hstart.bind fun _ => ?_)
      rw [hedge]
      exact followed_by_text (emitEdge_follows hc arena false sole.1) _
    | none => exact hstart.bind fun _ => Tracks.forM (emitEdge_follows hc arena true) edges
  | matchClause _ paths _ => exact paths_follow hc paths _ _
  | queryStatement _ _ _ matches_ _ _ _ _ => exact paths_follow hc matches_ _ _
  | _ => exact violation_follows _ _ _

lemma emitMerge_follows : Follows (emitMerge arena c h) (walkClause arena k h) := by
  refine node_follows fun n hn => ?_
  split
  · rw [walkClause, hn]
    refine text_follows _ ((hc.path _).bind fun _ => ?_)
    rw [← List.flatMap_append]
    exact emitSetList_follows hc arena _ _
  · exact violation_follows _ _ _

lemma emitDelete_follows : Follows (emitDelete arena c h) (walkClause arena k h) := by
  refine node_follows fun n hn => ?_
  split
  · rw [walkClause, hn]
    exact deleted_follow hc _ _
  · exact violation_follows _ _ _

lemma emitLinear_follows : Follows (emitLinear arena c h) (walkLinear arena k h) := by
  refine node_follows fun n hn => ?_
  rw [walkLinear, hn]
  cases n with
  | letClause | filterClause => exact text_follows _ (hc.expression _ _)
  | _ => exact Tracks.pure _

lemma visitQuery_compiles : Compiles (visitQuery arena c root) (walkStatement arena k false root) := by
  refine Finishes.compiles fun n hn => ?_
  rw [walkStatement, hn]
  cases n with
  | procedureCall mode ns procedure arguments yieldItems =>
    refine Finishes.silent_bind (emitExecutionMode_follows mode) fun _ => ?_
    exact Finishes.bind_finish (emitCall_follows hc ns procedure arguments yieldItems) mode _
  | queryStatement mode _ unwinds matches_ linearClauses withClauses mutations returnClause =>
    refine Finishes.bind (emitExecutionMode_follows mode) fun _ => ?_
    refine Finishes.bind (spaced_follows (emitUnwind_follows hc arena) _ unwinds) fun _ => ?_
    refine Finishes.bind (spaced_follows (emitMatch_follows hc arena) _ matches_) fun _ => ?_
    refine Finishes.bind (spaced_follows (emitLinear_follows hc arena) _ linearClauses) fun _ => ?_
    refine Finishes.bind (spaced_follows (emitWith_follows hc wording arena) _ withClauses) fun _ => ?_
    refine Finishes.bind (spaced_follows (emitMutation_follows hc wording arena
      (emitMerge_follows hc arena) (emitDelete_follows hc arena)) _ mutations) fun _ => ?_
    exact Finishes.bind_finish (emitReturnClause_follows hc wording arena returnClause) mode id
  | _ => exact Finishes.throw _ _

end IsoGqlEmitter

end

end Voyager
