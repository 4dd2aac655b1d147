import Voyager.Optimizer.Literals
import Voyager.Optimizer.Prune

namespace Voyager.AstOptimizer

def alloc (n : AstNode) : OptM NodeHandle := modifyGet fun arena => arena.alloc n

def identityLaw (left right : NodeHandle) (leftNode : AstNode) (op : BinaryOp) (rightNode : AstNode) :
    Option NodeHandle :=
  match op, leftNode, rightNode with
  | .and, .literal (.bool false), _ => some left
  | .and, _, .literal (.bool false) => some right
  | .and, .literal (.bool true), _ => some right
  | .and, _, .literal (.bool true) => some left
  | .or, .literal (.bool true), _ => some left
  | .or, _, .literal (.bool true) => some right
  | .or, .literal (.bool false), _ => some right
  | .or, _, .literal (.bool false) => some left
  | .add, _, .literal (.int64 0) => some left
  | .add, .literal (.int64 0), _ => some right
  | .sub, _, .literal (.int64 0) => some left
  | .mul, _, .literal (.int64 1) => some left
  | .mul, .literal (.int64 1), _ => some right
  | .div, _, .literal (.int64 1) => some left
  | _, _, _ => none

def intLiteral : AstNode → Option ℤ
  | .literal (.int64 i) => some i
  | _ => none

def reassociate (arena : QueryAstArena) (leftNode : AstNode) (op : BinaryOp) (rightNode : AstNode) :
    Except Error (Option (NodeHandle × ℤ)) := do
  match intLiteral rightNode, leftNode, op with
  | some r, .binaryExpression innerL .add innerR, .add =>
    match (intLiteral (← arena.get innerR)).bind fun c => checked (c + r) with
    | some sum => pure (some (innerL, sum))
    | none => pure (((intLiteral (← arena.get innerL)).bind fun c => checked (c + r)).map fun sum => (innerR, sum))
  | some r, .binaryExpression innerL .sub innerR, .sub =>
    pure (((intLiteral (← arena.get innerR)).bind fun c => checked (c + r)).map fun sum => (innerL, sum))
  | some r, .binaryExpression innerL .mul innerR, .mul =>
    pure (((intLiteral (← arena.get innerR)).bind fun c => checked (c * r)).map fun prod => (innerL, prod))
  | _, _, _ => pure none

def literalPair (leftNode : AstNode) (op : BinaryOp) (rightNode : AstNode) : Option LiteralValue :=
  match leftNode, rightNode with
  | .literal l, .literal r => evalBinaryLiterals l op r
  | _, _ => none

def foldBinaryOp (left : NodeHandle) (op : BinaryOp) (right : NodeHandle) : OptM NodeHandle := do
  let leftNode ← getNode left
  let rightNode ← getNode right
  match literalPair leftNode op rightNode with
  | some folded => alloc (.literal folded)
  | none =>
    match identityLaw left right leftNode op rightNode with
    | some kept => pure kept
    | none =>
      match ← liftM (reassociate (← get) leftNode op rightNode) with
      | some (kept, constant) =>
        let newLit ← alloc (.literal (.int64 constant))
        alloc (.binaryExpression kept op newLit)
      | none => alloc (.binaryExpression left op right)

def foldUnaryOp (op : UnaryOp) (operand : NodeHandle) : OptM NodeHandle := do
  let keep := alloc (.unaryExpression op operand)
  match op, ← getNode operand with
  | .not, .literal (.bool b) => alloc (.literal (.bool !b))
  | .not, .unaryExpression .not inner => pure inner
  | .neg, .literal (.int64 i) =>
    match checked (-i) with
    | some neg => alloc (.literal (.int64 neg))
    | none => keep
  | .neg, .literal (.float64 f) =>
    match F64.finite (-Float.ofBits f) with
    | some neg => alloc (.literal neg)
    | none => keep
  | .neg, .unaryExpression .neg inner => pure inner
  | .isNull, .literal .null => alloc (.literal (.bool true))
  | .isNotNull, .literal .null => alloc (.literal (.bool false))
  | _, _ => keep

structure Folds where
  expression : NodeHandle → OptM NodeHandle
  pathPredicates : NodeHandle → OptM Unit
  allExpressions : NodeHandle → OptM Unit

section

variable (c : Folds)

def foldOption (o : Option NodeHandle) : OptM (Option NodeHandle) :=
  match o with
  | none => pure none
  | some h => do return some (← c.expression h)

def foldBranches (hasOperand : Bool) :
    List (NodeHandle × NodeHandle) → OptM (List (NodeHandle × NodeHandle) × Option NodeHandle)
  | [] => pure ([], none)
  | (whenH, thenH) :: rest => do
    let foldedWhen ← c.expression whenH
    let foldedThen ← c.expression thenH
    let keep := do
      let (kept, hit) ← foldBranches hasOperand rest
      return ((foldedWhen, foldedThen) :: kept, hit)
    if hasOperand then keep else
      match ← getNode foldedWhen with
      | .literal (.bool true) => return ([], some foldedThen)
      | .literal (.bool false) => foldBranches hasOperand rest
      | _ => keep

def foldCaseExpression (operand : Option NodeHandle) (branches : List (NodeHandle × NodeHandle))
    (elseBranch : Option NodeHandle) : OptM NodeHandle := do
  let foldedOperand ← foldOption c operand
  let (foldedBranches, constantHit) ← foldBranches c foldedOperand.isSome branches
  match constantHit with
  | some hit => pure hit
  | none =>
    let foldedElse ← foldOption c elseBranch
    match foldedBranches, foldedElse with
    | [], some e => pure e
    | [], none => alloc (.literal .null)
    | _, _ => alloc (.caseExpression foldedOperand foldedBranches foldedElse)

def foldWhere (whereClause : Option NodeHandle) : OptM Unit :=
  whereClause.forM fun h => do
    match ← getNode h with
    | .whereClause rootPredicate =>
      let folded ← c.expression rootPredicate
      modifyNode h fun
        | .whereClause _ => .whereClause folded
        | other => other
    | _ => pure ()

variable (h : NodeHandle)

def foldMatchClause : OptM Unit := do
  match ← getNode h with
  | .matchClause _ paths whereClause =>
    paths.forM c.pathPredicates
    foldWhere c whereClause
  | _ => pure ()

def foldSubquery : OptM Unit := do
  match ← getNode h with
  | .queryStatement .. => c.allExpressions h
  | .matchClause .. => foldMatchClause c h
  | .pathChain .. | .nodePattern .. => c.pathPredicates h
  | _ => pure ()

def foldExpression : OptM NodeHandle :=
  if h.isNull then pure h else do
    match ← getNode h with
    | .binaryExpression left op right =>
      let leftFolded ← c.expression left
      let rightFolded ← c.expression right
      foldBinaryOp leftFolded op rightFolded
    | .unaryExpression op operand => foldUnaryOp op (← c.expression operand)
    | .functionCall name arguments => alloc (.functionCall name (← arguments.mapM c.expression))
    | .caseExpression operand branches elseBranch => foldCaseExpression c operand branches elseBranch
    | .listComprehension var listExpression whereFilter mapExpression =>
      let listFolded ← c.expression listExpression
      let filterFolded ← foldOption c whereFilter
      let mapFolded ← foldOption c mapExpression
      alloc (.listComprehension var listFolded filterFolded mapFolded)
    | .patternComprehension path whereFilter projection =>
      let filterFolded ← foldOption c whereFilter
      let projFolded ← c.expression projection
      alloc (.patternComprehension path filterFolded projFolded)
    | .existsSubquery subquery | .countSubquery subquery =>
      foldSubquery c subquery
      pure h
    | .listLiteral items => alloc (.listLiteral (← items.mapM c.expression))
    | _ => pure h

def foldPathPredicates : OptM Unit := do
  match ← getNode h with
  | .nodePattern _ _ predicates =>
    let folded ← predicates.mapM c.expression
    modifyNode h fun
      | .nodePattern var labels _ => .nodePattern var labels folded
      | other => other
  | .pathChain _ _ startNode edges =>
    c.pathPredicates startNode
    edges.forM fun edge => do
      match ← getNode edge with
      | .edgePattern _ _ _ _ _ predicates targetNode =>
        let folded ← predicates.mapM c.expression
        modifyNode edge fun
          | .edgePattern var labels direction minHops maxHops _ target =>
            .edgePattern var labels direction minHops maxHops folded target
          | other => other
        c.pathPredicates targetNode
      | _ => pure ()
  | _ => pure ()

def foldSetItem : OptM Unit := do
  match ← getNode h with
  | .setItem _ value _ =>
    let folded ← c.expression value
    modifyNode h fun
      | .setItem target _ isMerge => .setItem target folded isMerge
      | other => other
  | _ => pure ()

def optimizeMutationClause : OptM Unit := do
  match ← getNode h with
  | .setClause items => items.forM (foldSetItem c)
  | .mergeClause path onCreateSet onMatchSet =>
    c.pathPredicates path
    onCreateSet.forM (foldSetItem c)
    onMatchSet.forM (foldSetItem c)
  | .createClause paths => paths.forM c.pathPredicates
  | _ => pure ()

def foldProjections (projections : List ProjectionItem) : OptM (List ProjectionItem) :=
  projections.mapM fun item => do return { item with expression := ← c.expression item.expression }

def foldOrderBy (orderBy : List (NodeHandle × Bool)) : OptM (List (NodeHandle × Bool)) :=
  orderBy.mapM fun (h, asc) => do return (← c.expression h, asc)

def foldWithClause : OptM Unit := do
  match ← getNode h with
  | .withClause _ projections orderBy _ _ whereClause =>
    let foldedProjections ← foldProjections c projections
    let foldedOrderBy ← foldOrderBy c orderBy
    modifyNode h fun
      | .withClause distinct _ _ skip limit condition =>
        .withClause distinct foldedProjections foldedOrderBy skip limit condition
      | other => other
    foldWhere c whereClause
  | _ => pure ()

def foldReturnClause : OptM Unit := do
  match ← getNode h with
  | .returnClause _ projections orderBy _ _ =>
    let foldedProjections ← foldProjections c projections
    let foldedOrderBy ← foldOrderBy c orderBy
    modifyNode h fun
      | .returnClause distinct _ _ skip limit => .returnClause distinct foldedProjections foldedOrderBy skip limit
      | other => other
  | _ => pure ()

def foldLoadCsv : OptM Unit := do
  match ← getNode h with
  | .loadCsvClause url _ _ =>
    let folded ← c.expression url
    modifyNode h fun
      | .loadCsvClause _ withHeaders aliasName => .loadCsvClause folded withHeaders aliasName
      | other => other
  | _ => pure ()

def foldUnwind : OptM Unit := do
  match ← getNode h with
  | .unwindClause expression _ =>
    let folded ← c.expression expression
    modifyNode h fun
      | .unwindClause _ aliasName => .unwindClause folded aliasName
      | other => other
  | _ => pure ()

def foldLinear : OptM Unit := do
  match ← getNode h with
  | .letClause _ expression =>
    let folded ← c.expression expression
    modifyNode h fun
      | .letClause var _ => .letClause var folded
      | other => other
  | .filterClause predicate =>
    let folded ← c.expression predicate
    modifyNode h fun
      | .filterClause _ => .filterClause folded
      | other => other
  | _ => pure ()

def foldAllExpressions (root : NodeHandle) : OptM Unit := do
  match ← getNode root with
  | .queryStatement _ loadCsv unwinds matches_ linearClauses withClauses mutations returnClause =>
    loadCsv.forM (foldLoadCsv c)
    unwinds.forM (foldUnwind c)
    matches_.forM (foldMatchClause c)
    withClauses.forM (foldWithClause c)
    linearClauses.forM (foldLinear c)
    mutations.forM (optimizeMutationClause c)
    returnClause.forM (foldReturnClause c)
  | _ => pure ()

end

def folds : ℕ → Folds
  | 0 => ⟨fun _ => throw .outOfFuel, fun _ => throw .outOfFuel, fun _ => throw .outOfFuel⟩
  | fuel + 1 =>
    { expression := foldExpression (folds fuel)
      pathPredicates := foldPathPredicates (folds fuel)
      allExpressions := foldAllExpressions (folds fuel) }

end Voyager.AstOptimizer
