import Voyager.Emit.Clauses

namespace Voyager.IsoGqlEmitter

def isStringFunction (name : String) : Bool :=
  name.toLower ∈ ["tolower", "lower", "toupper", "upper", "trim", "btrim", "ltrim", "rtrim", "split",
    "substring", "replace", "reverse", "left", "right", "concat"]

def isLikelyStringExpr (arena : QueryAstArena) : ℕ → NodeHandle → Bool
  | 0, _ => false
  | fuel + 1, h =>
    match arena.nodes[h]? with
    | some (.literal (.string _)) => true
    | some (.binaryExpression _ .concat _) => true
    | some (.binaryExpression left .add right) =>
      isLikelyStringExpr arena fuel left || isLikelyStringExpr arena fuel right
    | some (.functionCall name _) => isStringFunction name
    | _ => false

def functionName (name : String) : String :=
  match name.toLower with
  | "tolower" | "lower" => "lower"
  | "toupper" | "upper" => "upper"
  | "length" | "char_length" | "character_length" => "char_length"
  | "size" | "cardinality" => "cardinality"
  | "distance" | "point.distance" | "point_distance" => "point.distance"
  | "ceil" | "ceiling" => "ceil"
  | "ln" | "log" => "ln"
  | lower =>
    if lower ∈ ["path_length", "elements", "coalesce", "trim", "btrim", "ltrim", "rtrim", "split",
        "substring", "replace", "reverse", "left", "right", "abs", "sqrt", "floor", "round", "exp", "log10",
        "sin", "cos", "tan", "asin", "acos", "atan"] then lower
    else name

/-- Every string test starts with as much fuel as the arena has nodes: an expression without a cycle is
no deeper. -/
def wording : Wording where
  nodeLabels := emitGqlNodeLabels
  functionName := functionName
  binaryOp arena left op right :=
    match op with
    | .concat => " || "
    | .add =>
      if isLikelyStringExpr arena (arena.len + 1) left || isLikelyStringExpr arena (arena.len + 1) right
      then " || " else " + "
    | other => " " ++ other.display ++ " "
  skip := " OFFSET "
  create := "INSERT "
  unsupportedMutation := "Unsupported mutation clause in ISO GQL: "

section

variable (arena : QueryAstArena) (c : Callees)

def quantifier (minHops maxHops : Option ℕ) : String :=
  if minHops.isSome || maxHops.isSome then
    "\x7b" ++ minHops.elim "1" toString ++ "," ++ maxHops.elim "" toString ++ "\x7d"
  else ""

def emitEdge (quantified : Bool) (h : NodeHandle) : EmitM Unit := do
  match ← node arena h with
  | .edgePattern var labels direction minHops maxHops predicates targetNode =>
    pushStr (direction.opening ++ var.getD "" ++ emitGqlEdgeLabels labels)
    emitPredicates arena c predicates
    pushStr (direction.closing ++ if quantified then quantifier minHops maxHops else "")
    emitNodePattern wording arena c targetNode
  | other => violation "Expected EdgePattern, got " other

variable (h : NodeHandle)

def emitEdgePattern : EmitM Unit := emitEdge arena c true h

def emitEdgePatternUnquantified : EmitM Unit := emitEdge arena c false h

def soleQuantifier (edges : List NodeHandle) : Except Error (Option (NodeHandle × String)) :=
  match edges with
  | [edge] => do
    match ← arena.get edge with
    | .edgePattern _ _ _ minHops maxHops _ _ =>
      pure (if minHops.isSome || maxHops.isSome then some (edge, quantifier minHops maxHops) else none)
    | _ => pure none
  | _ => pure none

def emitPath : EmitM Unit := do
  let expected := violation "Expected PathChain or NodePattern, got "
  match ← node arena h with
  | .nodePattern .. => emitNodePattern wording arena c h
  | .pathChain pathVariable pathMode startNode edges =>
    pushStr (pathVariable.elim "" (· ++ " = "))
    pushStr (if pathMode = .none then "" else pathMode.asStr ++ " ")
    match ← liftM (soleQuantifier arena edges) with
    | some (edge, text) =>
      pushStr "("
      emitNodePattern wording arena c startNode
      emitEdgePatternUnquantified arena c edge
      pushStr (")" ++ text)
    | none =>
      emitNodePattern wording arena c startNode
      edges.forM (emitEdgePattern arena c)
  | n@(.matchClause _ paths _) => if paths.isEmpty then expected n else separated ", " c.path paths
  | n@(.queryStatement _ _ _ matches_ _ _ _ _) =>
    if matches_.isEmpty then expected n else separated ", " c.path matches_
  | other => expected other

def emitMerge : EmitM Unit := do
  match ← node arena h with
  | .mergeClause path onCreateSet onMatchSet =>
    pushStr "UPSERT "
    c.path path
    emitSetList arena c " SET " (onCreateSet ++ onMatchSet)
  | other => violation "Expected MergeClause, got " other

def emitDelete : EmitM Unit := do
  match ← node arena h with
  | .deleteClause _ targets =>
    pushStr "DELETE "
    separated ", " (c.expression · false) targets
  | other => violation "Expected DeleteClause, got " other

def emitLinear : EmitM Unit := do
  match ← node arena h with
  | .letClause var expression =>
    pushStr ("LET " ++ var ++ " = ")
    c.expression expression false
  | .filterClause predicate =>
    pushStr "FILTER "
    c.expression predicate false
  | _ => pure ()

/-- The `load_csv` clause is not written. -/
def visitQuery (root : NodeHandle) : EmitM CompiledQuery := do
  modify Emitter.clear
  match ← node arena root with
  | .procedureCall mode ns procedure arguments yieldItems =>
    emitExecutionMode mode
    emitCall c ns procedure arguments yieldItems
    Emitter.finish mode []
  | .queryStatement mode _ unwinds matches_ linearClauses withClauses mutations returnClause =>
    emitExecutionMode mode
    let hasEmitted ← spaced (emitUnwind arena c) false unwinds
    let hasEmitted ← spaced (emitMatch arena c) hasEmitted matches_
    let hasEmitted ← spaced (emitLinear arena c) hasEmitted linearClauses
    let hasEmitted ← spaced (emitWith wording arena c) hasEmitted withClauses
    let _ ← spaced (emitMutation wording arena c (emitMerge arena c) (emitDelete arena c)) hasEmitted mutations
    let columns ← emitReturnClause wording arena c returnClause
    Emitter.finish mode columns
  | other => throw (.astInvariantViolation "Invalid root AST node for ISO GQL: " other)

end

def callees (arena : QueryAstArena) : ℕ → Callees
  | 0 => Callees.exhausted
  | fuel + 1 =>
    { expression := emitExpression wording arena (callees arena fuel)
      path := emitPath arena (callees arena fuel)
      visitQuery := visitQuery arena (callees arena fuel) }

end Voyager.IsoGqlEmitter
