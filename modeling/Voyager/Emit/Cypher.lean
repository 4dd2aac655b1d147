import Voyager.Emit.Clauses

namespace Voyager.CypherEmitter

def functionName (name : String) : String :=
  match name.toLower with
  | "cardinality" => "size"
  | "char_length" | "character_length" => "size"
  | "lower" => "toLower"
  | "upper" => "toUpper"
  | "path_length" => "length"
  | "distance" | "point.distance" | "point_distance" => "point.distance"
  | _ => name

def wording : Wording where
  nodeLabels := emitCypherNodeLabels
  functionName := functionName
  binaryOp _ _ op _ :=
    match op with
    | .concat => " + "
    | other => " " ++ other.display ++ " "
  skip := " SKIP "
  create := "CREATE "
  unsupportedMutation := "Unsupported mutation clause in QueryStatement: "

section

variable (arena : QueryAstArena) (c : Callees)

def hops (minHops maxHops : Option ℕ) : String :=
  if minHops.isSome || maxHops.isSome then
    "*" ++ minHops.elim "" toString ++ ".." ++ maxHops.elim "" toString
  else ""

variable (h : NodeHandle)

def emitEdgePattern : EmitM Unit := do
  match ← node arena h with
  | .edgePattern var labels direction minHops maxHops predicates targetNode =>
    pushStr (direction.opening ++ var.getD "" ++ emitCypherEdgeLabels labels ++ hops minHops maxHops)
    emitPredicates arena c predicates
    pushStr direction.closing
    emitNodePattern wording arena c targetNode
  | other => violation "Expected EdgePattern, got " other

def emitPath : EmitM Unit := do
  let expected := violation "Expected PathChain or NodePattern, got "
  match ← node arena h with
  | .nodePattern .. => emitNodePattern wording arena c h
  | .pathChain pathVariable _ startNode edges =>
    pushStr (pathVariable.elim "" (· ++ " = "))
    emitNodePattern wording arena c startNode
    edges.forM (emitEdgePattern arena c)
  | n@(.matchClause _ paths _) => if paths.isEmpty then expected n else separated ", " c.path paths
  | n@(.queryStatement _ _ _ matches_ _ _ _ _) =>
    if matches_.isEmpty then expected n else separated ", " c.path matches_
  | other => expected other

def emitMerge : EmitM Unit := do
  match ← node arena h with
  | .mergeClause path onCreateSet onMatchSet =>
    pushStr "MERGE "
    c.path path
    emitSetList arena c " ON CREATE SET " onCreateSet
    emitSetList arena c " ON MATCH SET " onMatchSet
  | other => violation "Expected MergeClause, got " other

def emitDelete : EmitM Unit := do
  match ← node arena h with
  | .deleteClause detach targets =>
    pushStr (if detach then "DETACH DELETE " else "DELETE ")
    separated ", " (c.expression · false) targets
  | other => violation "Expected DeleteClause, got " other

def emitLoadCsv : EmitM Unit := do
  match ← node arena h with
  | .loadCsvClause url withHeaders aliasName =>
    pushStr ("LOAD CSV " ++ (if withHeaders then "WITH HEADERS " else "") ++ "FROM ")
    c.expression url false
    pushStr (" AS " ++ aliasName)
  | other => violation "Expected LoadCsvClause, got " other

def emitLinear : EmitM Unit := do
  match ← node arena h with
  | .letClause var expression =>
    pushStr "WITH *, "
    c.expression expression false
    pushStr (" AS " ++ var)
  | .filterClause predicate =>
    pushStr "WHERE "
    c.expression predicate false
  | _ => pure ()

def visitQuery (root : NodeHandle) : EmitM CompiledQuery := do
  modify Emitter.clear
  match ← node arena root with
  | .queryStatement mode loadCsv unwinds matches_ linearClauses withClauses mutations returnClause =>
    emitExecutionMode mode
    loadCsv.forM (emitLoadCsv arena c)
    let hasEmitted ← spaced (emitUnwind arena c) loadCsv.isSome unwinds
    let hasEmitted ← spaced (emitMatch arena c) hasEmitted matches_
    let hasEmitted ← spaced (emitLinear arena c) hasEmitted linearClauses
    let hasEmitted ← spaced (emitWith wording arena c) hasEmitted withClauses
    let _ ← spaced (emitMutation wording arena c (emitMerge arena c) (emitDelete arena c)) hasEmitted mutations
    let columns ← emitReturnClause wording arena c returnClause
    Emitter.finish mode columns
  | .procedureCall mode ns procedure arguments yieldItems =>
    emitExecutionMode mode
    emitCall c ns procedure arguments yieldItems
    Emitter.finish mode (yieldItems.map fun item => ⟨.text item, none⟩)
  | other => throw (.astInvariantViolation "Invalid root AST node: " other)

end

def callees (arena : QueryAstArena) : ℕ → Callees
  | 0 => Callees.exhausted
  | fuel + 1 =>
    { expression := emitExpression wording arena (callees arena fuel)
      path := emitPath arena (callees arena fuel)
      visitQuery := visitQuery arena (callees arena fuel) }

end Voyager.CypherEmitter
