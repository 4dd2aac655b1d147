import Voyager.Optimizer.Fold

/-! Predicate pushdown: equalities on a property of a node move from the WHERE of a clause into a node pattern. -/

namespace Voyager.AstOptimizer

section

variable (arena : QueryAstArena)

def collectConjuncts : ℕ → NodeHandle → Except Error (List NodeHandle)
  | 0, _ => .error .outOfFuel
  | fuel + 1, h => do
    match ← arena.get h with
    | .binaryExpression left .and right =>
      let conjuncts ← collectConjuncts fuel left
      return conjuncts ++ (← collectConjuncts fuel right)
    | .whereClause rootPredicate => collectConjuncts fuel rootPredicate
    | .literal (.bool true) => pure []
    | _ => pure [h]

def isConstantExpression : ℕ → NodeHandle → Except Error Bool
  | 0, _ => .error .outOfFuel
  | fuel + 1, h => do
    match ← arena.get h with
    | .literal _ | .parameter _ => pure true
    | .functionCall _ arguments => arguments.allM (isConstantExpression fuel)
    | .unaryExpression _ operand => isConstantExpression fuel operand
    | .listLiteral items => items.allM (isConstantExpression fuel)
    | _ => pure false

def resolveVariableName (h : NodeHandle) : Except Error (Option String) := do
  match ← arena.get h with
  | .identifier ident => pure (some ident)
  | .nodePattern var _ _ => pure var
  | _ => pure none

def propertySide (fuel : ℕ) (side : AstNode) (other : NodeHandle) : Except Error (Option NodeHandle) :=
  match side with
  | .propertyAccess target _ => do
    return if ← isConstantExpression arena fuel other then some target else none
  | _ => pure none

def extractSingleNodeEqualityVar (fuel : ℕ) (h : NodeHandle) : Except Error (Option String) := do
  match ← arena.get h with
  | .binaryExpression left .eq right =>
    let leftNode ← arena.get left
    let rightNode ← arena.get right
    match ← propertySide arena fuel leftNode right with
    | some target => resolveVariableName arena target
    | none =>
      match ← propertySide arena fuel rightNode left with
      | some target => resolveVariableName arena target
      | none => pure none
  | _ => pure none

end

section

variable (targetVar : String) (pred : NodeHandle)

def pushPredicate : AstNode → AstNode
  | .nodePattern var labels predicates => .nodePattern var labels (predicates ++ [pred])
  | other => other

def hoistPredicateToPath : ℕ → NodeHandle → OptM Bool
  | 0, _ => throw .outOfFuel
  | fuel + 1, path => do
    match ← getNode path with
    | .nodePattern var _ _ =>
      if var = some targetVar then
        modifyNode path (pushPredicate pred)
        pure true
      else pure false
    | .pathChain _ _ startNode edges =>
      if ← hoistPredicateToPath fuel startNode then pure true
      else edges.anyM fun edge => do
        (edgeTarget (← getNode edge)).anyM (hoistPredicateToPath fuel)
    | _ => pure false

variable (fuel : ℕ)

def hoistToPaths (paths : List NodeHandle) : OptM Bool :=
  paths.anyM (hoistPredicateToPath targetVar pred fuel)

def hoistToMatch (h : NodeHandle) : OptM Bool := do
  match ← getNode h with
  | .matchClause false paths _ => hoistToPaths targetVar pred fuel paths
  | _ => pure false

end

section

variable (fuel : ℕ) (optional : Bool) (paths previous : List NodeHandle)

def hoistConjunct (conjunct : NodeHandle) : OptM Bool := do
  match ← liftM (extractSingleNodeEqualityVar (← get) fuel conjunct) with
  | some targetVar =>
    if ← hoistToPaths targetVar conjunct fuel paths then pure true
    else if optional then pure false
    else previous.anyM (hoistToMatch targetVar conjunct fuel)
  | none => pure false

def hoistConjuncts : List NodeHandle → OptM (List NodeHandle)
  | [] => pure []
  | conjunct :: conjuncts => do
    let hoisted ← hoistConjunct fuel optional paths previous conjunct
    let remaining ← hoistConjuncts conjuncts
    return if hoisted then remaining else conjunct :: remaining

end

def buildConjunctionTree : List NodeHandle → OptM (Option NodeHandle)
  | [] => pure none
  | first :: rest => do
    let current ← rest.foldlM (fun current next => alloc (.binaryExpression current .and next)) first
    return some (← alloc (.whereClause current))

def setWhere (condition : Option NodeHandle) : AstNode → AstNode
  | .matchClause optional paths _ => .matchClause optional paths condition
  | other => other

def optimizeMatchClause (fuel : ℕ) (h : NodeHandle) (candidateMatches : List NodeHandle) : OptM Unit := do
  match ← getNode h with
  | .matchClause optional paths (some whereHandle) =>
    let conjuncts ← liftM (collectConjuncts (← get) fuel whereHandle)
    let remaining ← hoistConjuncts fuel optional paths (candidateMatches.reverse.drop 1) conjuncts
    let newWhere ← buildConjunctionTree remaining
    modifyNode h (setWhere newWhere)
  | _ => pure ()

def optimizeStatement (fuel : ℕ) (root : NodeHandle) : OptM Unit := do
  match ← getNode root with
  | .queryStatement _ _ _ matches_ _ _ mutations _ =>
    matches_.zipIdx.forM fun (h, idx) => optimizeMatchClause fuel h (matches_.take (idx + 1))
    mutations.forM (optimizeMutationClause (folds fuel))
  | _ => pure ()

end Voyager.AstOptimizer
