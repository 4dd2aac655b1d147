import Voyager.Ast
import Voyager.Lib.Tracking

/-! Pruning of auto-generated variables that the used-variable analysis does not find. -/

namespace Voyager

abbrev OptM := StateT QueryAstArena (Except Error)

namespace AstOptimizer

def present (h : NodeHandle) : List NodeHandle := if h.isNull then [] else [h]

def union (a b : Except Error (List String)) : Except Error (List String) := do
  let us ← a
  let vs ← b
  return us ++ vs

def gather {ι : Type} (f : ι → Except Error (List String)) : List ι → Except Error (List String)
  | [] => pure []
  | i :: is => union (f i) (gather f is)

section

variable (arena : QueryAstArena)

def collectExprVars : ℕ → NodeHandle → Except Error (List String)
  | 0, _ => .error .outOfFuel
  | fuel + 1, h => do
    let all := gather (collectExprVars fuel)
    match ← arena.get h with
    | .identifier ident => pure [ident]
    | .propertyAccess target _ => all [target]
    | .binaryExpression left _ right => all [left, right]
    | .unaryExpression _ operand => all [operand]
    | .functionCall _ arguments => all arguments
    | .caseExpression operand branches elseBranch =>
      all (operand.toList ++ branches.flatMap (fun b => [b.1, b.2]) ++ elseBranch.toList)
    | .listComprehension _ listExpression whereFilter mapExpression =>
      all (listExpression :: whereFilter.toList ++ mapExpression.toList)
    | .patternComprehension _ whereFilter projection => all (whereFilter.toList ++ [projection])
    | .existsSubquery subquery | .countSubquery subquery => all [subquery]
    | .listLiteral items => all items
    | .whereClause rootPredicate => all [rootPredicate]
    | _ => pure []

def collectPathVars (includeBindingVars : Bool) : ℕ → NodeHandle → Except Error (List String)
  | 0, _ => .error .outOfFuel
  | fuel + 1, h => do
    let bound (var : Option String) := pure (if includeBindingVars then var.toList else [])
    match ← arena.get h with
    | .nodePattern var _ predicates => union (bound var) (gather (collectExprVars arena fuel) predicates)
    | .edgePattern var _ _ _ _ predicates targetNode =>
      union (bound var) (union (gather (collectExprVars arena fuel) predicates)
        (gather (collectPathVars includeBindingVars fuel) (present targetNode)))
    | .pathChain pathVariable _ startNode edges =>
      union (bound pathVariable) (gather (collectPathVars includeBindingVars fuel) (present startNode ++ edges))
    | _ => pure []

variable (fuel : ℕ)

variable (h : NodeHandle)

def collectLoadCsv : Except Error (List String) := do
  match ← arena.get h with
  | .loadCsvClause url _ aliasName => union (collectExprVars arena fuel url) (pure [aliasName])
  | _ => pure []

def collectUnwind : Except Error (List String) := do
  match ← arena.get h with
  | .unwindClause expression aliasName => union (collectExprVars arena fuel expression) (pure [aliasName])
  | _ => pure []

def collectLinear : Except Error (List String) := do
  match ← arena.get h with
  | .letClause var expression => union (pure [var]) (collectExprVars arena fuel expression)
  | .filterClause predicate => collectExprVars arena fuel predicate
  | _ => pure []

def collectWith : Except Error (List String) := do
  match ← arena.get h with
  | .withClause _ projections orderBy _ _ whereClause =>
    gather (collectExprVars arena fuel)
      (projections.map ProjectionItem.expression ++ orderBy.map Prod.fst ++ whereClause.toList)
  | _ => pure []

def collectReturn : Except Error (List String) := do
  match ← arena.get h with
  | .returnClause _ projections orderBy _ _ =>
    gather (collectExprVars arena fuel) (projections.map ProjectionItem.expression ++ orderBy.map Prod.fst)
  | _ => pure []

def collectMatch : Except Error (List String) := do
  match ← arena.get h with
  | .matchClause _ paths whereClause =>
    union (gather (collectExprVars arena fuel) whereClause.toList)
      (gather (collectPathVars arena false fuel) paths)
  | _ => pure []

def collectSetItem : Except Error (List String) := do
  match ← arena.get h with
  | .setItem target value _ => gather (collectExprVars arena fuel) [target, value]
  | _ => pure []

def collectMutation : Except Error (List String) := do
  match ← arena.get h with
  | .createClause paths => gather (collectPathVars arena true fuel) paths
  | .mergeClause path onCreateSet onMatchSet =>
    union (collectPathVars arena true fuel path) (gather (collectSetItem arena fuel) (onCreateSet ++ onMatchSet))
  | .setClause items => gather (collectSetItem arena fuel) items
  | .deleteClause _ targets => gather (collectExprVars arena fuel) targets
  | .removeClause items => gather (collectExprVars arena fuel) items
  | _ => pure []

def collectUsedVariables (root : NodeHandle) : Except Error (List String) := do
  match ← arena.get root with
  | .queryStatement _ loadCsv unwinds matches_ linearClauses withClauses mutations returnClause =>
    union (gather (collectLoadCsv arena fuel) loadCsv.toList)
      (union (gather (collectUnwind arena fuel) unwinds)
        (union (gather (collectLinear arena fuel) linearClauses)
          (union (gather (collectWith arena fuel) withClauses)
            (union (gather (collectReturn arena fuel) returnClause.toList)
              (union (gather (collectMatch arena fuel) matches_)
                (gather (collectMutation arena fuel) mutations))))))
  | _ => pure []

end

def isGenerated (var : String) : Bool := var.toList.head? == some '_'

def isPrunable (usedVars : List String) (var : String) : Bool := isGenerated var && !usedVars.contains var

def keepUsed (usedVars : List String) (var : Option String) : Option String :=
  var.filter fun x => !isPrunable usedVars x

def pruneNode (usedVars : List String) : AstNode → AstNode
  | .nodePattern var labels predicates => .nodePattern (keepUsed usedVars var) labels predicates
  | .pathChain pathVariable mode startNode edges => .pathChain (keepUsed usedVars pathVariable) mode startNode edges
  | other => other

def getNode (h : NodeHandle) : OptM AstNode := do
  liftM ((← get).get h)

def modifyNode (h : NodeHandle) (f : AstNode → AstNode) : OptM Unit := do
  set (← liftM ((← get).modify h f))

lemma getNode_ok {h : NodeHandle} {arena arena' : QueryAstArena} {n : AstNode}
    (hok : getNode h arena = .ok (n, arena')) : arena.nodes[h]? = some n ∧ arena' = arena := by
  obtain ⟨_, _, hget, hlift⟩ := Lib.bind_ok.mp hok
  cases hget
  obtain ⟨hn, rfl⟩ := Lib.lift_ok.mp hlift
  exact ⟨QueryAstArena.get_eq_ok.mp hn, rfl⟩

lemma modifyNode_ok {h : NodeHandle} {f : AstNode → AstNode} {arena arena' : QueryAstArena} {u : Unit}
    (hok : modifyNode h f arena = .ok (u, arena')) :
    ∃ n, arena.nodes[h]? = some n ∧ arena' = ⟨arena.nodes.set h (f n)⟩ := by
  obtain ⟨_, _, hget, hok⟩ := Lib.bind_ok.mp hok
  cases hget
  obtain ⟨_, _, hmodify, hset⟩ := Lib.bind_ok.mp hok
  obtain ⟨hmodify, rfl⟩ := Lib.lift_ok.mp hmodify
  cases hset
  unfold QueryAstArena.modify at hmodify
  split at hmodify
  · rename_i n hn
    exact ⟨n, hn, (Except.ok.inj hmodify).symm⟩
  · cases hmodify

def edgeTarget : AstNode → List NodeHandle
  | .edgePattern _ _ _ _ _ _ targetNode => present targetNode
  | _ => []

def prunePathVariables (usedVars : List String) : ℕ → NodeHandle → OptM Unit
  | 0, _ => throw .outOfFuel
  | fuel + 1, path => do
    let pathNode ← getNode path
    modifyNode path (pruneNode usedVars)
    match pathNode with
    | .pathChain _ _ startNode edges =>
      prunePathVariables usedVars fuel startNode
      edges.forM fun edge => do
        let edgeNode ← getNode edge
        (edgeTarget edgeNode).forM (prunePathVariables usedVars fuel)
    | _ => pure ()

def matchesOf : AstNode → List NodeHandle
  | .queryStatement _ _ _ matches_ _ _ _ _ => matches_
  | _ => []

def mutationsOf : AstNode → List NodeHandle
  | .queryStatement _ _ _ _ _ _ mutations _ => mutations
  | _ => []

def pathsOf : AstNode → List NodeHandle
  | .matchClause _ paths _ => paths
  | _ => []

def pruneDeadVariables (fuel : ℕ) (root : NodeHandle) : OptM Unit := do
  let usedVars ← liftM (collectUsedVariables (← get) fuel root)
  (matchesOf (← getNode root)).forM fun h => do
    (pathsOf (← getNode h)).forM (prunePathVariables usedVars fuel)

end AstOptimizer

end Voyager
