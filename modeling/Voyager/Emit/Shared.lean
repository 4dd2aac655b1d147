import Voyager.Emit.Basic

/-! The emit functions that the Cypher and the ISO GQL emitter have in common. They call each other through
the arena; `Callees` are the three entry points of that recursion. -/

namespace Voyager

structure Callees where
  expression : NodeHandle → Bool → EmitM Unit
  path : NodeHandle → EmitM Unit
  visitQuery : NodeHandle → EmitM CompiledQuery

def Callees.exhausted : Callees where
  expression _ _ := throw .outOfFuel
  path _ := throw .outOfFuel
  visitQuery _ := throw .outOfFuel

structure Wording where
  nodeLabels : Option LabelExpression → String
  functionName : String → String
  binaryOp : QueryAstArena → NodeHandle → BinaryOp → NodeHandle → String
  skip : String
  create : String
  unsupportedMutation : String

def patternEntry (arena : QueryAstArena) (h : NodeHandle) : Except Error (Option (String × NodeHandle)) := do
  match ← arena.get h with
  | .binaryExpression left .eq right =>
    let leftNode ← arena.get left
    let rightNode ← arena.get right
    match leftNode, rightNode with
    | .propertyAccess _ property, _ => pure (some (property, right))
    | _, .propertyAccess _ property => pure (some (property, left))
    | .identifier ident, _ => pure (some (ident, right))
    | _, .identifier ident => pure (some (ident, left))
    | _, _ => pure none
  | _ => pure none

section

variable (w : Wording) (arena : QueryAstArena) (c : Callees)

variable (h : NodeHandle)

def emitPatternPredicate : EmitM Unit := do
  match ← liftM (patternEntry arena h) with
  | some (key, value) =>
    pushStr (key ++ ": ")
    c.expression value false
  | none => c.expression h false

def emitPredicates (predicates : List NodeHandle) : EmitM Unit :=
  if predicates.isEmpty then pure () else do
    pushStr " \x7b"
    separated ", " (emitPatternPredicate arena c) predicates
    pushStr "\x7d"

def emitNodePattern : EmitM Unit := do
  match ← node arena h with
  | .nodePattern var labels predicates =>
    pushStr ("(" ++ var.getD "" ++ w.nodeLabels labels)
    emitPredicates arena c predicates
    pushStr ")"
  | other => violation "Expected NodePattern, got " other

def Direction.opening : Direction → String
  | .incoming => "<-["
  | .outgoing | .undirected => "-["

def Direction.closing : Direction → String
  | .outgoing => "]->"
  | .incoming | .undirected => "]-"

def emitWhere : EmitM Unit := do
  match ← node arena h with
  | .whereClause rootPredicate =>
    pushStr " WHERE "
    c.expression rootPredicate false
  | other => violation "Expected WhereClause, got " other

def emitMatchClause (optional : Bool) (paths : List NodeHandle) (whereClause : Option NodeHandle) : EmitM Unit := do
  pushStr (if optional then "OPTIONAL MATCH " else "MATCH ")
  separated ", " c.path paths
  whereClause.forM (emitWhere arena c)

def emitNestedQuery : EmitM Unit := do
  let self ← get
  let nestedEmitter := { Emitter.new.withoutExecutionMode with paramCounter := self.paramCounter }
  let (compiled, nested) ← liftM (c.visitQuery h nestedEmitter)
  modify fun e =>
    { e with
      buffer := e.buffer ++ compiled.statement
      paramCounter := nested.paramCounter
      -- `extend`: an entry of the nested map replaces the one of the same name
      parameters := compiled.parameters ∪ e.parameters
      written := e.written ++ nested.written }

def emitSubqueryBody : EmitM Unit := do
  match ← node arena h with
  | .nodePattern .. | .pathChain .. =>
    pushStr "MATCH "
    c.path h
  | .matchClause optional paths whereClause => emitMatchClause arena c optional paths whereClause
  | .queryStatement .. => emitNestedQuery c h
  | .whereClause .. => emitWhere arena c h
  | _ => c.expression h false

def emitUnary (op : UnaryOp) (operand : NodeHandle) : EmitM Unit :=
  match op with
  | .not => do
    pushStr "NOT ("
    c.expression operand false
    pushStr ")"
  | .neg => do
    pushStr "-"
    c.expression operand true
  | .isNull => do
    c.expression operand true
    pushStr " IS NULL"
  | .isNotNull => do
    c.expression operand true
    pushStr " IS NOT NULL"

def emitCase (operand : Option NodeHandle) (branches : List (NodeHandle × NodeHandle))
    (elseBranch : Option NodeHandle) : EmitM Unit := do
  pushStr "CASE"
  operand.forM fun op => do
    pushStr " "
    c.expression op false
  branches.forM fun (whenExpr, thenExpr) => do
    pushStr " WHEN "
    c.expression whenExpr false
    pushStr " THEN "
    c.expression thenExpr false
  elseBranch.forM fun e => do
    pushStr " ELSE "
    c.expression e false
  pushStr " END"

def emitFilter (whereFilter : Option NodeHandle) : EmitM Unit :=
  whereFilter.forM fun wh => do
    pushStr " WHERE "
    c.expression wh false

def emitListComprehension (var : String) (listExpression : NodeHandle)
    (whereFilter mapExpression : Option NodeHandle) : EmitM Unit := do
  pushStr ("[" ++ var ++ " IN ")
  c.expression listExpression false
  emitFilter c whereFilter
  mapExpression.forM fun m => do
    pushStr " | "
    c.expression m false
  pushStr "]"

def emitPatternComprehension (path : NodeHandle) (whereFilter : Option NodeHandle)
    (projection : NodeHandle) : EmitM Unit := do
  pushStr "["
  c.path path
  emitFilter c whereFilter
  pushStr " | "
  c.expression projection false
  pushStr "]"

def emitExpression (nested : Bool) : EmitM Unit := do
  match ← node arena h with
  | .identifier id => pushStr id
  | .nodePattern (some var) _ _ => pushStr var
  | .edgePattern (some var) _ _ _ _ _ _ => pushStr var
  | .parameter param => pushStr ("$" ++ param)
  | .propertyAccess target property =>
    c.expression target false
    if property = "" then pure () else pushStr ("." ++ property)
  | .literal lit => pushLiteral lit
  | .binaryExpression left op right =>
    pushStr (if nested then "(" else "")
    c.expression left true
    pushStr (w.binaryOp arena left op right)
    c.expression right true
    pushStr (if nested then ")" else "")
  | .unaryExpression op operand => emitUnary c op operand
  | .functionCall name arguments =>
    pushStr (w.functionName name ++ "(")
    separated ", " (c.expression · false) arguments
    pushStr ")"
  | .caseExpression operand branches elseBranch => emitCase c operand branches elseBranch
  | .listComprehension var listExpression whereFilter mapExpression =>
    emitListComprehension c var listExpression whereFilter mapExpression
  | .patternComprehension path whereFilter projection =>
    emitPatternComprehension c path whereFilter projection
  | .existsSubquery subquery =>
    pushStr "EXISTS \x7b "
    emitSubqueryBody arena c subquery
    pushStr " \x7d"
  | .countSubquery subquery =>
    pushStr "COUNT \x7b "
    emitSubqueryBody arena c subquery
    pushStr " \x7d"
  | .listLiteral items =>
    pushStr "["
    separated ", " (c.expression · false) items
    pushStr "]"
  | other => violation "Unsupported expression node: " other

end

end Voyager
