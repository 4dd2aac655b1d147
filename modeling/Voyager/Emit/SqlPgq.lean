import Voyager.Builder.LabelText
import Voyager.Emit.Clauses

/-! The SQL/PGQ emitter: a `GRAPH_TABLE` around the patterns of a statement. -/

namespace Voyager.SqlPgqEmitter

def functionName (name : String) : String :=
  match name.toLower with
  | "tolower" | "lower" => "LOWER"
  | "toupper" | "upper" => "UPPER"
  | "size" | "length" | "char_length" | "character_length" => "LENGTH"
  | "cardinality" => "CARDINALITY"
  | "distance" | "point.distance" | "point_distance" => "ST_Distance"
  | "coalesce" => "COALESCE"
  | "trim" => "TRIM"
  | "ltrim" => "LTRIM"
  | "rtrim" => "RTRIM"
  | "split" => "STRING_SPLIT"
  | "substring" => "SUBSTRING"
  | "replace" => "REPLACE"
  | "reverse" => "REVERSE"
  | "left" => "LEFT"
  | "right" => "RIGHT"
  | "abs" => "ABS"
  | "sqrt" => "SQRT"
  | "ceil" => "CEIL"
  | "floor" => "FLOOR"
  | "round" => "ROUND"
  | "log" => "LN"
  | "log10" => "LOG10"
  | "exp" => "EXP"
  | "sin" => "SIN"
  | "cos" => "COS"
  | "tan" => "TAN"
  | "asin" => "ASIN"
  | "acos" => "ACOS"
  | "atan" => "ATAN"
  | _ => name

def aroundRight : BinaryOp → String × String
  | .contains => (" LIKE '%' || ", " || '%'")
  | .startsWith => (" LIKE ", " || '%'")
  | .endsWith => (" LIKE '%' || ", "")
  | .concat => (" || ", "")
  | other => (" " ++ other.display ++ " ", "")

def aggregateOpening : AggregationFunc → String
  | .collect => "ARRAY_AGG("
  | func => func.opening

def emitPgqNodeLabels : Option LabelExpression → String
  | none => ""
  | some e =>
    match e.toConjunctionLabels with
    | some labels => String.join (labels.map fun l => " IS " ++ l)
    | none => " IS " ++ e.display

def emitPgqEdgeLabels : Option LabelExpression → String
  | none => ""
  | some e =>
    " IS " ++ match e.toDisjunctionLabels with
      | some types => " | ".intercalate types
      | none => e.display

def hops (minHops maxHops : Option ℕ) : String :=
  if minHops.isSome || maxHops.isSome then
    "\x7b" ++ minHops.elim "1" toString ++ "," ++ maxHops.elim "" toString ++ "\x7d"
  else ""

def unsupported (feature : String) : EmitM Unit := throw (.unsupportedFeature "sql_pgq" feature)

section

variable (arena : QueryAstArena) (c : Callees)

variable (h : NodeHandle)

def emitExpression (nested : Bool) : EmitM Unit := do
  match ← node arena h with
  | .identifier id => pushStr id
  | .nodePattern (some var) _ _ => pushStr var
  | .edgePattern (some var) _ _ _ _ _ _ => pushStr var
  | .propertyAccess target property =>
    c.expression target false
    if property = "" then pure () else pushStr ("." ++ property)
  | .literal lit => pushLiteral lit
  | .binaryExpression left op right =>
    pushStr (if nested then "(" else "")
    c.expression left true
    pushStr (aroundRight op).1
    c.expression right true
    pushStr (aroundRight op).2
    pushStr (if nested then ")" else "")
  | .unaryExpression op operand => emitUnary c op operand
  | .functionCall name arguments =>
    pushStr (functionName name ++ "(")
    separated ", " (c.expression · false) arguments
    pushStr ")"
  | .caseExpression operand branches elseBranch => emitCase c operand branches elseBranch
  | .existsSubquery subquery =>
    pushStr "EXISTS ("
    c.expression subquery false
    pushStr ")"
  | .countSubquery subquery =>
    pushStr "COUNT ("
    c.expression subquery false
    pushStr ")"
  | .listLiteral items =>
    pushStr "["
    separated ", " (c.expression · false) items
    pushStr "]"
  | other => violation "Unsupported expression node: " other

def emitPredicates (keyword : String) (predicates : List NodeHandle) : EmitM Unit :=
  if predicates.isEmpty then pure () else do
    pushStr keyword
    separated " AND " (c.expression · false) predicates

def emitNodePattern : EmitM Unit := do
  match ← node arena h with
  | .nodePattern var labels predicates =>
    pushStr ("(" ++ var.getD "" ++ emitPgqNodeLabels labels)
    emitPredicates c (if var.isSome || labels.isSome then " WHERE " else "WHERE ") predicates
    pushStr ")"
  | other => violation "Expected NodePattern, got " other

def emitEdgePattern : EmitM Unit := do
  match ← node arena h with
  | .edgePattern var labels direction minHops maxHops predicates targetNode =>
    pushStr (" " ++ direction.opening ++ var.getD "" ++ emitPgqEdgeLabels labels)
    emitPredicates c " WHERE " predicates
    pushStr (direction.closing ++ hops minHops maxHops ++ " ")
    emitNodePattern arena c targetNode
  | other => violation "Expected EdgePattern, got " other

def emitPath : EmitM Unit := do
  match ← node arena h with
  | .nodePattern .. => emitNodePattern arena c h
  | .pathChain (some var) _ _ _ => unsupported ("Path variable assignment ('" ++ var ++
      " = ...') - SQL:2023 PGQ GRAPH_TABLE does not support path variables")
  | .pathChain none mode startNode edges =>
    if mode ≠ .none then
      unsupported ("Path search mode '" ++ mode.asStr ++
        "' - SQL:2023 PGQ GRAPH_TABLE does not support traversal search modes")
    else
      emitNodePattern arena c startNode
      edges.forM (emitEdgePattern arena c)
  | other => violation "Expected PathChain or NodePattern, got " other

def emitMatch : EmitM Unit := do
  match ← node arena h with
  | .matchClause _ paths whereClause =>
    separated ", " (emitPath arena c) paths
    whereClause.forM (emitWhere arena c)
  | _ => pure ()

def emitMatchesAndWhere (matches_ : List NodeHandle) : EmitM Unit := separated ", " (emitMatch arena c) matches_

def emitColumn (proj : ProjectionItem) : EmitM Unit := do
  pushStr (proj.aggregation.elim "" aggregateOpening)
  c.expression proj.expression false
  pushStr (proj.aggregation.elim "" fun _ => ")")
  pushStr (proj.aliasName.elim "" (" AS " ++ ·))

def emitColumns (projections : List ProjectionItem) : EmitM Unit := do
  pushStr " COLUMNS ("
  separated ", " (emitColumn c) projections
  pushStr ")"

def renderExpressionToString : EmitM String := do
  let saved := (← get).buffer
  modify fun e => { e with buffer := "" }
  c.expression h false
  modifyGet fun e => (e.buffer, { e with buffer := saved })

end

def expressionsMatch (arena : QueryAstArena) : ℕ → NodeHandle → NodeHandle → Bool
  | 0, _, _ => false
  | fuel + 1, a, b =>
    a = b ||
      match arena.nodes[a]?, arena.nodes[b]? with
      | some (.propertyAccess t₁ p₁), some (.propertyAccess t₂ p₂) => p₁ = p₂ && expressionsMatch arena fuel t₁ t₂
      | some (.identifier id₁), some (.identifier id₂) => id₁ = id₂
      | some (.nodePattern (some v₁) _ _), some (.identifier id₂) => v₁ = id₂
      | some (.identifier id₁), some (.nodePattern (some v₂) _ _) => id₁ = v₂
      | some (.nodePattern (some v₁) _ _), some (.nodePattern (some v₂) _ _) => v₁ = v₂
      | _, _ => false

def projectedName (arena : QueryAstArena) (proj : ProjectionItem) : Option String :=
  match proj.aliasName with
  | some a => some a
  | none =>
    match arena.nodes[proj.expression]? with
    | some (.propertyAccess _ property) => some property
    | _ => none

def getExprLeafName (arena : QueryAstArena) (h : NodeHandle) : String :=
  match arena.nodes[h]? with
  | some (.propertyAccess _ property) => property
  | some (.identifier id) => id
  | _ => ""

def resolveProjectedColumnName (arena : QueryAstArena) (fuel : ℕ) (h : NodeHandle)
    (projections : List ProjectionItem) : String :=
  (projections.findSome? fun proj =>
    if expressionsMatch arena fuel proj.expression h then projectedName arena proj else none).getD
      (getExprLeafName arena h)

structure AggregatePlan where
  innerColumns : List (String × String)
  outerSelectItems : List String
  groupByKeys : List String
deriving DecidableEq

def AggregatePlan.add (plan : AggregatePlan) (idx : ℕ) (exprSql fallbackName : String) (proj : ProjectionItem) :
    AggregatePlan :=
  let existing := (plan.innerColumns.find? fun col => col.1 = exprSql).map Prod.snd
  let baseName := if fallbackName = "" then "col_" ++ toString idx else fallbackName
  match proj.aggregation with
  | some func =>
    let colAlias := if plan.innerColumns.any fun col => col.2 = baseName then baseName ++ "_" ++ toString idx else baseName
    let innerColName := existing.getD colAlias
    { plan with
      innerColumns := if existing.isSome then plan.innerColumns else plan.innerColumns ++ [(exprSql, colAlias)]
      outerSelectItems := plan.outerSelectItems ++
        [aggregateOpening func ++ innerColName ++ ")" ++ proj.aliasName.elim "" (" AS " ++ ·)] }
  | none =>
    let colAlias := proj.aliasName.getD baseName
    { innerColumns := if existing.isSome then plan.innerColumns else plan.innerColumns ++ [(exprSql, colAlias)]
      outerSelectItems := plan.outerSelectItems ++ [existing.getD colAlias]
      groupByKeys := plan.groupByKeys ++ [existing.getD colAlias] }

def planAggregates (arena : QueryAstArena) (c : Callees) : List (ProjectionItem × ℕ) → AggregatePlan → EmitM AggregatePlan
  | [], plan => pure plan
  | (proj, idx) :: rest, plan => do
    let exprSql ← renderExpressionToString c proj.expression
    planAggregates arena c rest (plan.add idx exprSql (getExprLeafName arena proj.expression) proj)

section

variable (graphName : String) (arena : QueryAstArena) (fuel : ℕ) (c : Callees)

def emitGraphTable (modePrefix : String) (matches_ : List NodeHandle) (projections : List ProjectionItem) : EmitM Unit :=
  if projections.any fun p => p.aggregation.isSome then do
    let plan ← planAggregates arena c projections.zipIdx ⟨[], [], []⟩
    pushStr (modePrefix ++ "SELECT " ++ ", ".intercalate plan.outerSelectItems ++ " FROM GRAPH_TABLE (" ++ graphName ++
      " MATCH ")
    emitMatchesAndWhere arena c matches_
    pushStr (" COLUMNS (" ++ ", ".intercalate (plan.innerColumns.map fun col => col.1 ++ " AS " ++ col.2) ++ "))")
    pushStr (if plan.groupByKeys.isEmpty then "" else " GROUP BY " ++ ", ".intercalate plan.groupByKeys)
  else do
    pushStr (modePrefix ++ "SELECT * FROM GRAPH_TABLE (" ++ graphName ++ " MATCH ")
    emitMatchesAndWhere arena c matches_
    emitColumns c projections
    pushStr ")"

def emitOrderBy (projections : List ProjectionItem) (orderBy : List (NodeHandle × Bool)) : EmitM Unit :=
  if orderBy.isEmpty then pure () else do
    pushStr " ORDER BY "
    separated ", "
      (fun (expr, isAsc) => do
        let resolved := resolveProjectedColumnName arena fuel expr projections
        if resolved = "" then c.expression expr false else pushStr resolved
        pushStr (if isAsc then " ASC" else " DESC"))
      orderBy

def modePrefix : ExecutionMode → String
  | .normal => ""
  | .explain => "EXPLAIN "
  | .profile | .explainAndProfile => "EXPLAIN ANALYZE "

def returned : AstNode → List ProjectionItem × List (NodeHandle × Bool) × Option ℕ × Option ℕ
  | .returnClause _ projections orderBy skip limit => (projections, orderBy, skip, limit)
  | _ => ([], [], none, none)

def visitQuery (root : NodeHandle) : EmitM CompiledQuery := do
  modify Emitter.clear
  match ← node arena root with
  | .queryStatement mode _ unwinds matches_ linearClauses withClauses mutations returnClause =>
    if !mutations.isEmpty then
      unsupported "DML mutations (CREATE, MERGE, SET, DELETE) - GRAPH_TABLE is a read-only query operator"
    if !unwinds.isEmpty then
      unsupported "UNWIND clauses - GRAPH_TABLE is a read-only query operator"
    if !linearClauses.isEmpty then
      unsupported ("Linear statements (LET, FILTER) - SQL:2023 PGQ GRAPH_TABLE does not support " ++ "linear statements")
    if !withClauses.isEmpty then
      unsupported ("WITH clauses - SQL:PGQ GRAPH_TABLE operator does not support Cypher-style intermediate WITH " ++
        "projection pipelines")
    let (projections, orderBy, skip, limit) ← match returnClause with
      | some ret => returned <$> node arena ret
      | none => pure ([], [], none, none)
    emitGraphTable graphName arena c (modePrefix mode) matches_ projections
    emitOrderBy arena fuel c projections orderBy
    pushStr (limit.elim "" fun l => " LIMIT " ++ toString l)
    pushStr (skip.elim "" fun s => " OFFSET " ++ toString s)
    modifyGet fun e => (⟨e.buffer, e.parameters, mode, ColumnMeta.fromProjections arena projections⟩,
      { e with buffer := "", parameters := ∅ })
  | other => throw (.astInvariantViolation "Invalid root AST node for SQL:PGQ: " other)

end

def callees (arena : QueryAstArena) : ℕ → Callees
  | 0 => Callees.exhausted
  | fuel + 1 => { Callees.exhausted with expression := emitExpression arena (callees arena fuel) }

def compile (graphName : String) (arena : QueryAstArena) (fuel : ℕ) (root : NodeHandle) : Except Error CompiledQuery :=
  Prod.fst <$> visitQuery graphName arena fuel (callees arena fuel) root Emitter.new

end Voyager.SqlPgqEmitter
