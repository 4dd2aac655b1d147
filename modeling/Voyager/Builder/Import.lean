import Voyager.Builder.QueryBuilder
import Voyager.Lib.Unfold

namespace Voyager

open Lib List NodeHandle

namespace AstNode

def handles : AstNode → List NodeHandle
  | nodePattern _ _ predicates => predicates
  | edgePattern _ _ _ _ _ predicates targetNode => predicates ++ [targetNode]
  | pathChain _ _ startNode edges => startNode :: edges
  | binaryExpression left _ right => [left, right]
  | unaryExpression _ operand => [operand]
  | functionCall _ arguments => arguments
  | caseExpression operand branches elseBranch =>
    operand.toList ++ branches.flatMap (fun b => [b.1, b.2]) ++ elseBranch.toList
  | listComprehension _ listExpression whereFilter mapExpression =>
    listExpression :: (whereFilter.toList ++ mapExpression.toList)
  | patternComprehension path whereFilter projection => path :: (whereFilter.toList ++ [projection])
  | existsSubquery subquery => [subquery]
  | countSubquery subquery => [subquery]
  | listLiteral items => items
  | propertyAccess target _ => [target]
  | literal _ | identifier _ | parameter _ => []
  | unwindClause expression _ => [expression]
  | whereClause rootPredicate => [rootPredicate]
  | matchClause _ paths condition => paths ++ condition.toList
  | returnClause _ projections orderBy _ _ => projections.map ProjectionItem.expression ++ orderBy.map Prod.fst
  | procedureCall _ _ _ arguments _ => arguments
  | createClause paths => paths
  | mergeClause path onCreateSet onMatchSet => path :: (onCreateSet ++ onMatchSet)
  | setClause items => items
  | setItem target value _ => [target, value]
  | deleteClause _ targets => targets
  | removeClause items => items
  | loadCsvClause url _ _ => [url]
  | withClause _ projections orderBy _ _ condition =>
    projections.map ProjectionItem.expression ++ orderBy.map Prod.fst ++ condition.toList
  | letClause _ expression => [expression]
  | filterClause predicate => [predicate]
  | queryStatement _ loadCsv unwinds matches_ linearClauses withClauses mutations returned =>
    loadCsv.toList ++ unwinds ++ matches_ ++ linearClauses ++ withClauses ++ mutations ++ returned.toList

variable (n : AstNode)

def label : AstNode := n.mapHandles fun _ => 0

variable (f g : NodeHandle → NodeHandle)

lemma handles_mapHandles : (n.mapHandles f).handles = n.handles.map f := by
  cases n with
  | _ => simp [mapHandles, handles, Option.toList_map, flatMap_map, map_flatMap, Function.comp_def]

lemma mapHandles_mapHandles : (n.mapHandles g).mapHandles f = n.mapHandles (f ∘ g) := by
  cases n with
  | _ => simp [mapHandles, Function.comp_def]

lemma label_mapHandles : (n.mapHandles f).label = n.label := by
  rw [label, mapHandles_mapHandles]
  rfl

end AstNode

namespace QueryAstArena

def reading : Reading NodeHandle AstNode AstNode := ⟨AstNode.label, AstNode.handles⟩

variable (arena : QueryAstArena)

def unfold : ℕ → NodeHandle → Unfolding AstNode := reading.unfold (arena.nodes[·]?)

def Valid (h : NodeHandle) : Prop := h < arena.len ∨ h.isNull = true

def Resolves : NodeHandle → Prop := reading.Under (arena.nodes[·]?) arena.Valid

def Closed : Prop := ∀ n ∈ arena.nodes, ∀ h ∈ n.handles, arena.Valid h

variable {arena : QueryAstArena} {h : ℕ}

lemma Closed.resolves (hclosed : arena.Closed) (hvalid : arena.Valid h) : arena.Resolves h := by
  intro k hk
  induction hk with
  | refl => exact hvalid
  | tail _ hchild _ =>
    obtain ⟨n, hn, hmem⟩ := hchild
    exact hclosed n (mem_of_getElem? hn) _ hmem

lemma getElem?_of_isNull (hnull : isNull h = true) (hlen : arena.len < 2 ^ 32) : arena.nodes[h]? = none := by
  rw [isNull, beq_iff_eq, null] at hnull
  rw [len] at hlen
  rw [getElem?_eq_none_iff, hnull]
  omega

lemma lt_of_getElem? {n : AstNode} (hn : arena.nodes[h]? = some n) (hlen : arena.len < 2 ^ 32) :
    h < arena.len ∧ isNull h = false := by
  refine ⟨(List.getElem?_eq_some_iff.mp hn).1, ?_⟩
  by_contra hnull
  rw [getElem?_of_isNull (by simpa using hnull) hlen] at hn
  cases hn

lemma isNull_of_getElem? (hvalid : arena.Valid h) (hnone : arena.nodes[h]? = none) : isNull h = true := by
  refine hvalid.resolve_left fun hlt => ?_
  exact absurd hlt (not_lt.mpr (List.getElem?_eq_none_iff.mp hnone))

end QueryAstArena

namespace QueryBuilder

open QueryAstArena

variable {b : QueryBuilder} {sub : QueryAstArena} {root : NodeHandle}

lemma nodes_importSubarena :
    (b.importSubarena sub root).2.arena.nodes = b.arena.nodes ++ sub.nodes.map (remapAstNode (b.arena.len % 2 ^ 32)) :=
  rfl

lemma len_importSubarena : (b.importSubarena sub root).2.arena.len = b.arena.len + sub.len := by
  rw [len, nodes_importSubarena, length_append, length_map]
  rfl

lemma nodes_remapHandle {h : ℕ} {n : AstNode} (hn : sub.nodes[h]? = some n) (hroom : b.arena.len + sub.len < 2 ^ 32) :
    (b.importSubarena sub root).2.arena.nodes[remapHandle (b.arena.len % 2 ^ 32) h]? =
      some (remapAstNode (b.arena.len % 2 ^ 32) n) := by
  obtain ⟨hlt, hnull⟩ := lt_of_getElem? hn (by omega)
  have hoffset : b.arena.len % 2 ^ 32 = b.arena.len := Nat.mod_eq_of_lt (by omega)
  have hindex : remapHandle (b.arena.len % 2 ^ 32) h = b.arena.nodes.length + h := by
    rw [remapHandle, if_neg (by simp [hnull]), hoffset, Nat.mod_eq_of_lt (by omega), Nat.add_comm]
    rfl
  rw [hindex, nodes_importSubarena, getElem?_append_right (Nat.le_add_right _ _), Nat.add_sub_cancel_left,
    getElem?_map, hn]
  rfl

theorem importSubarena_unfolds (b : QueryBuilder) (sub : QueryAstArena) (root : NodeHandle)
    (hroot : sub.Resolves root) (hroom : b.arena.len + sub.len < 2 ^ 32) :
    (∀ depth, (b.importSubarena sub root).2.arena.unfold depth (b.importSubarena sub root).1 =
        sub.unfold depth root) ∧
      ∀ h, b.arena.Resolves h → ∀ depth,
        (b.importSubarena sub root).2.arena.unfold depth h = b.arena.unfold depth h := by
  have hlen : (b.importSubarena sub root).2.arena.len < 2 ^ 32 := by rwa [len_importSubarena]
  constructor
  · intro depth
    refine Reading.unfold_map (f := remapHandle (b.arena.len % 2 ^ 32)) ?_ ?_ depth hroot
    · intro h n _ hn
      exact ⟨_, nodes_remapHandle hn hroom, n.label_mapHandles _, n.handles_mapHandles _⟩
    · intro h hvalid hn
      have hnull := isNull_of_getElem? hvalid hn
      rw [remapHandle, if_pos hnull]
      exact getElem?_of_isNull hnull hlen
  · intro h hh depth
    refine Reading.unfold_map (f := id) ?_ ?_ depth hh
    · intro h n _ hn
      refine ⟨n, ?_, rfl, (map_id _).symm⟩
      rw [nodes_importSubarena, id, getElem?_append_left (List.getElem?_eq_some_iff.mp hn).1, hn]
    · intro h hvalid hn
      exact getElem?_of_isNull (isNull_of_getElem? hvalid hn) hlen

def negated : QueryAstArena := ⟨[.identifier "m", .unaryExpression .not 0]⟩

lemma negated_closed : negated.Closed := by
  intro n hn h hh
  simp only [negated, mem_cons, not_mem_nil, or_false] at hn
  rcases hn with rfl | rfl
  · cases hh
  · obtain rfl := List.mem_singleton.mp hh
    exact .inl (by decide)

theorem importSubarena_unfolds_negated :
    negated.Closed ∧ negated.Valid 1 ∧
      ∀ depth, ((new.ident "n").2.importSubarena negated 1).2.arena.unfold depth
        ((new.ident "n").2.importSubarena negated 1).1 = negated.unfold depth 1 := by
  have hvalid : negated.Valid 1 := .inl (by decide)
  exact ⟨negated_closed, hvalid,
    (importSubarena_unfolds (new.ident "n").2 negated 1 (negated_closed.resolves hvalid) (by decide)).1⟩

def twoNames : QueryAstArena := ⟨[.identifier "y", .identifier "z"]⟩

def fullBuilder : QueryBuilder := { new with arena := ⟨List.replicate (2 ^ 32 - 1) (.identifier "x")⟩ }

theorem import_wraps_around :
    twoNames.Closed ∧ twoNames.Valid 1 ∧ twoNames.unfold 1 1 = .node (.identifier "z") [] ∧
      (fullBuilder.importSubarena twoNames 1).2.arena.unfold 1 (fullBuilder.importSubarena twoNames 1).1 =
        .node (.identifier "x") [] := by
  refine ⟨?_, .inl (by decide), rfl, ?_⟩
  · intro n hn h hh
    simp only [twoNames, mem_cons, not_mem_nil, or_false] at hn
    rcases hn with rfl | rfl
    · cases hh
    · cases hh
  · have hlen : fullBuilder.arena.len = 2 ^ 32 - 1 := length_replicate
    have hhandle : (fullBuilder.importSubarena twoNames 1).1 = 0 := by
      rw [importSubarena, hlen]
      rfl
    have hnode : (fullBuilder.importSubarena twoNames 1).2.arena.nodes[0]? = some (.identifier "x") := by
      rw [nodes_importSubarena, getElem?_append_left]
      · exact getElem?_replicate_of_lt (by decide)
      · rw [fullBuilder, length_replicate]
        decide
    rw [hhandle, unfold, Reading.unfold, hnode]
    rfl

end QueryBuilder

end Voyager
