import Voyager.Builder.QueryBuilder

/-! The calls that a builder answers to, the import of patterns from another builder among them. -/

namespace Voyager

namespace QueryBuilder

def setExecutionMode (mode : ExecutionMode) (b : QueryBuilder) : QueryBuilder := { b with executionMode := mode }

def unwind (expr : NodeHandle) (aliasName : String) (b : QueryBuilder) : QueryBuilder :=
  let (h, b) := b.flushCurrentPath.alloc (.unwindClause expr aliasName)
  { b with unwindClauses := b.unwindClauses ++ [h] }

def splitProcedure (name : String) : Option String × String :=
  match name.toList.reverse.span (· != '.') with
  | (procedure, _ :: ns) => (some (.ofList ns.reverse), .ofList procedure.reverse)
  | (_, []) => (none, name)

def callProcedure (name : String) (arguments : List NodeHandle) (b : QueryBuilder) : QueryBuilder :=
  let b := b.flushCurrentPath
  let (ns, procedure) := splitProcedure name
  let (h, b) := b.alloc (.procedureCall b.executionMode ns procedure arguments [])
  { b with procedureCall := some h }

def setYieldItems (items : List String) : AstNode → AstNode
  | .procedureCall mode ns procedure arguments _ => .procedureCall mode ns procedure arguments items
  | other => other

def yieldItems (items : List String) (b : QueryBuilder) : QueryBuilder :=
  match b.procedureCall with
  | none => b
  | some call =>
    match b.arena.modify call (setYieldItems items) with
    | .ok arena => { b with arena }
    | .error _ => b

variable (var property : String)

variable (val : LiteralValue)

variable (b : QueryBuilder)

def onCreateSet : QueryBuilder :=
  let (value, b) := b.literal val
  b.onCreateSetExpr var property value

def onMatchSet : QueryBuilder :=
  let (value, b) := b.literal val
  b.onMatchSetExpr var property value

def setProperty : QueryBuilder :=
  let (value, b) := b.literal val
  b.setPropertyExpr var property value

def setMerge (var : String) (valMap : LiteralValue) (b : QueryBuilder) : QueryBuilder :=
  let (target, b) := b.ident var
  let (value, b) := b.literal valMap
  let (item, b) := b.alloc (.setItem target value true)
  { b with currentSetItems := b.currentSetItems ++ [item] }

def nodeExpr (var : Option String) (expr : LabelExpression) : QueryBuilder → QueryBuilder :=
  nodePatternInternal var (some expr)

def edgeExprOpt (direction : Direction) (expr : Option LabelExpression) (var : Option String) (b : QueryBuilder) :
    QueryBuilder :=
  { b with pendingEdge := some ⟨direction, expr, var, none, none⟩ }

def toExprOpt : Option LabelExpression → Option String → QueryBuilder → QueryBuilder := edgeExprOpt .outgoing

def fromExprOpt : Option LabelExpression → Option String → QueryBuilder → QueryBuilder := edgeExprOpt .incoming

def undirectedExprOpt : Option LabelExpression → Option String → QueryBuilder → QueryBuilder :=
  edgeExprOpt .undirected

def whereProperty (op : BinaryOp) (value : LiteralValue) (b : QueryBuilder) : QueryBuilder :=
  let (left, b) := b.prop var property
  let (right, b) := b.literal value
  let (expr, b) := b.binaryExpr left op right
  b.whereExpr expr

def appendWith (distinct : Bool) (projections : List ProjectionItem) (orderBy : List (NodeHandle × Bool))
    (skip limit : Option ℕ) (condition : Option NodeHandle) (b : QueryBuilder) : QueryBuilder :=
  let (h, b) := b.flushCurrentPath.alloc (.withClause distinct projections orderBy skip limit condition)
  { b with withClauses := b.withClauses ++ [h] }

def selectItems (items : List ProjectionItem) (b : QueryBuilder) : QueryBuilder :=
  { b with projections := b.projections ++ items }

def hasMutations : Bool :=
  !b.mutationClauses.isEmpty || !b.currentSetItems.isEmpty || !b.currentOnCreateSet.isEmpty ||
    !b.currentOnMatchSet.isEmpty || b.clauseMode == some .create || b.clauseMode == some .merge

def declared (var : Option String) (labels : Option LabelExpression) (seen : Finset String) :
    Option LabelExpression × Finset String :=
  match var with
  | none => (labels, seen)
  | some v => if v ∈ seen then (none, seen) else (labels, insert v seen)

section

variable (arena : QueryAstArena)

def importNode (h : NodeHandle) (s : QueryBuilder × Finset String) : QueryBuilder × Finset String :=
  match arena.get h with
  | .ok (.nodePattern var labels _) =>
    let (labels, seen) := declared var labels s.2
    (s.1.nodePatternInternal var labels, seen)
  | _ => s

def importHops (minHops maxHops : Option ℕ) (b : QueryBuilder) : QueryBuilder :=
  if minHops.isSome || maxHops.isSome then
    let min := minHops.getD 1
    b.hops min (maxHops.getD min)
  else b

variable (s : QueryBuilder × Finset String)

def importEdge (edge : NodeHandle) : QueryBuilder × Finset String :=
  match arena.get edge with
  | .ok (.edgePattern var labels direction minHops maxHops _ targetNode) =>
    let b := (s.1.edgeExprOpt direction labels var).importHops minHops maxHops
    importNode arena targetNode (b, s.2 ∪ var.toFinset)
  | _ => s

def importPath (path : NodeHandle) : QueryBuilder × Finset String :=
  let b := if s.1.currentPathStart.isSome || !s.1.currentMatchPaths.isEmpty then s.1.pattern else s.1
  match arena.get path with
  | .ok (.nodePattern ..) => importNode arena path (b, s.2)
  | .ok (.pathChain _ _ startNode edges) => edges.foldl (importEdge arena) (importNode arena startNode (b, s.2))
  | _ => (b, s.2)

def importWhere (condition : Option NodeHandle) (b : QueryBuilder) : QueryBuilder :=
  match condition.map arena.get with
  | some (.ok (.whereClause rootPredicate)) =>
    let (predicate, b) := b.importSubarena arena rootPredicate
    b.whereExpr predicate
  | _ => b

def importMatch (clause : NodeHandle) : QueryBuilder × Finset String :=
  match arena.get clause with
  | .ok (.matchClause _ paths condition) =>
    let s := paths.foldl (importPath arena) s
    (s.1.importWhere arena condition, s.2)
  | _ => s

end

def importMatchPatterns (b other : QueryBuilder) (seen : Finset String) : QueryBuilder × Finset String :=
  let other := other.flushCurrentPath
  let b := if b.clauseMode.isNone then b.match_ else b
  other.matchClauses.foldl (importMatch other.arena) (b, seen)

/-- A call of the builder. The aliases of the source are left out; `subquery` is an import of the arena that the
inner builder has built, and `fulltext_search` two literals, a procedure call and its `yield_items`. -/
inductive Call
  | ident (name : String)
  | literal (val : LiteralValue)
  | param (name : String)
  | prop (varName property : String)
  | binaryExpr (left : NodeHandle) (op : BinaryOp) (right : NodeHandle)
  | unaryExpr (op : UnaryOp) (operand : NodeHandle)
  | function (name : String) (arguments : List NodeHandle)
  | caseWhen (operand : Option NodeHandle) (branches : List (NodeHandle × NodeHandle)) (elseBranch : Option NodeHandle)
  | listComprehension (var : String) (listExpression : NodeHandle) (whereFilter mapExpression : Option NodeHandle)
  | patternComprehension (path : NodeHandle) (whereFilter : Option NodeHandle) (projection : NodeHandle)
  | existsSubquery (subquery : NodeHandle)
  | countSubquery (subquery : NodeHandle)
  | listLiteral (items : List NodeHandle)
  | importSubarena (subArena : QueryAstArena) (subRoot : NodeHandle)
  | explain
  | profile
  | setExecutionMode (mode : ExecutionMode)
  | unwind (expr : NodeHandle) (aliasName : String)
  | unwindParam (paramName aliasName : String)
  | loadCsv (url : String) (withHeaders : Bool) (aliasName : String)
  | callProcedure (name : String) (arguments : List NodeHandle)
  | yieldItems (items : List String)
  | match_
  | optionalMatch
  | create
  | merge
  | onCreateSet (var property : String) (val : LiteralValue)
  | onCreateSetExpr (var property : String) (expr : NodeHandle)
  | onMatchSet (var property : String) (val : LiteralValue)
  | onMatchSetExpr (var property : String) (expr : NodeHandle)
  | setProperty (var property : String) (val : LiteralValue)
  | setPropertyExpr (var property : String) (expr : NodeHandle)
  | setMerge (var : String) (valMap : LiteralValue)
  | delete (targets : List String)
  | detachDelete (targets : List String)
  | removeProperty (var property : String)
  | node (var : Option String) (labels : List String)
  | nodeExpr (var : Option String) (expr : LabelExpression)
  | to_ (edgeTypes : List String) (var : Option String)
  | toExprOpt (expr : Option LabelExpression) (var : Option String)
  | from_ (edgeTypes : List String) (var : Option String)
  | fromExprOpt (expr : Option LabelExpression) (var : Option String)
  | edge (edgeTypes : List String) (var : Option String)
  | edgeExprOpt (expr : Option LabelExpression) (var : Option String)
  | hops (min max : ℕ)
  | pathMode (mode : PathMode)
  | pathVariable (var : String)
  | wherePredicate (predicate : NodeHandle)
  | whereProperty (var property : String) (op : BinaryOp) (value : LiteralValue)
  | with_
  | withClause (distinct : Bool) (projections : List ProjectionItem) (orderBy : List (NodeHandle × Bool))
      (skip limit : Option ℕ) (condition : Option NodeHandle)
  | return_
  | select (items : List ProjectionItem)
  | selectExpr (expression : NodeHandle) (aliasName : Option String)
  | selectProperty (var property : String) (aliasName : Option String)
  | selectAggregate (expression : NodeHandle) (func : AggregationFunc) (aliasName : Option String)
  | selectPropertyAggregate (var property : String) (func : AggregationFunc) (aliasName : Option String)
  | distinct (isDistinct : Bool)
  | orderBy (expr : NodeHandle) (ascending : Bool)
  | orderByProperty (var property : String) (ascending : Bool)
  | pattern
  | limit (rows : ℕ)
  | skip (rows : ℕ)
  | let_ (var : String) (expression : NodeHandle)
  | filter_ (predicate : NodeHandle)
  | importMatchPatterns (other : QueryBuilder) (seen : Finset String)

namespace Call

def run (unicode : Unicode) (b : QueryBuilder) : Call → QueryBuilder
  | ident name => (b.ident name).2
  | literal val => (b.literal val).2
  | param name => (b.param name).2
  | prop varName property => (b.prop varName property).2
  | binaryExpr left op right => (b.binaryExpr left op right).2
  | unaryExpr op operand => (b.unaryExpr op operand).2
  | function name arguments => (b.function name arguments).2
  | caseWhen operand branches elseBranch => (b.caseWhen operand branches elseBranch).2
  | listComprehension var listExpression whereFilter mapExpression =>
    (b.listComprehension var listExpression whereFilter mapExpression).2
  | patternComprehension path whereFilter projection => (b.patternComprehension path whereFilter projection).2
  | existsSubquery subquery => (b.existsSubquery subquery).2
  | countSubquery subquery => (b.countSubquery subquery).2
  | listLiteral items => (b.listLiteral items).2
  | importSubarena subArena subRoot => (b.importSubarena subArena subRoot).2
  | explain => b.explain
  | profile => b.profile
  | setExecutionMode mode => b.setExecutionMode mode
  | unwind expr aliasName => b.unwind expr aliasName
  | unwindParam paramName aliasName => b.unwindParam paramName aliasName
  | loadCsv url withHeaders aliasName => b.loadCsv url withHeaders aliasName
  | callProcedure name arguments => b.callProcedure name arguments
  | yieldItems items => b.yieldItems items
  | match_ => b.match_
  | optionalMatch => b.optionalMatch
  | create => b.create
  | merge => b.merge
  | onCreateSet var property val => b.onCreateSet var property val
  | onCreateSetExpr var property expr => b.onCreateSetExpr var property expr
  | onMatchSet var property val => b.onMatchSet var property val
  | onMatchSetExpr var property expr => b.onMatchSetExpr var property expr
  | setProperty var property val => b.setProperty var property val
  | setPropertyExpr var property expr => b.setPropertyExpr var property expr
  | setMerge var valMap => b.setMerge var valMap
  | delete targets => b.delete targets
  | detachDelete targets => b.detachDelete targets
  | removeProperty var property => b.removeProperty var property
  | node var labels => b.node unicode var labels
  | nodeExpr var expr => b.nodeExpr var expr
  | to_ edgeTypes var => b.to_ unicode edgeTypes var
  | toExprOpt expr var => b.toExprOpt expr var
  | from_ edgeTypes var => b.from_ unicode edgeTypes var
  | fromExprOpt expr var => b.fromExprOpt expr var
  | edge edgeTypes var => b.edge unicode edgeTypes var
  | edgeExprOpt expr var => b.undirectedExprOpt expr var
  | hops min max => b.hops min max
  | pathMode mode => b.pathMode mode
  | pathVariable var => b.pathVariable var
  | wherePredicate predicate => b.whereExpr predicate
  | whereProperty var property op value => b.whereProperty var property op value
  | with_ => b.with_
  | withClause isDistinct projections orderBys skipRows limitRows condition =>
    b.appendWith isDistinct projections orderBys skipRows limitRows condition
  | return_ => b.return_
  | select items => b.selectItems items
  | selectExpr expression aliasName => b.selectExpr expression aliasName
  | selectProperty var property aliasName => b.field var property aliasName
  | selectAggregate expression func aliasName => b.selectAggregate expression func aliasName
  | selectPropertyAggregate var property func aliasName => b.selectPropertyAggregate var property func aliasName
  | distinct isDistinct => b.distinct isDistinct
  | orderBy expr ascending => b.orderBy expr ascending
  | orderByProperty var property ascending => b.orderByProperty var property ascending
  | pattern => b.pattern
  | limit rows => b.limit rows
  | skip rows => b.skip rows
  | let_ var expression => b.let_ var expression
  | filter_ predicate => b.filter_ predicate
  | importMatchPatterns other seen => (b.importMatchPatterns other seen).1

def isProcedure : Call → Bool
  | callProcedure _ _ | yieldItems _ => true
  | _ => false

end Call

def after (unicode : Unicode) (b : QueryBuilder) (calls : List Call) : QueryBuilder :=
  calls.foldl (Call.run unicode) b

section

variable (unicode : Unicode) (step : QueryBuilder → Call → Prop) (last : QueryBuilder → Prop)

def Along : QueryBuilder → List Call → Prop
  | b, [] => last b
  | b, c :: calls => step b c ∧ Along (c.run unicode b) calls

instance decidableAlong [∀ b c, Decidable (step b c)] [DecidablePred last] :
    ∀ b calls, Decidable (Along unicode step last b calls)
  | b, [] => inferInstanceAs (Decidable (last b))
  | b, c :: calls =>
    have := decidableAlong (c.run unicode b) calls
    inferInstanceAs (Decidable (_ ∧ _))

variable {unicode step last} {b : QueryBuilder}

lemma after_append (before rest : List Call) :
    after unicode b (before ++ rest) = after unicode (after unicode b before) rest :=
  List.foldl_append ..

lemma Along.append {before rest : List Call} (h : Along unicode step last b (before ++ rest)) :
    Along unicode step last (after unicode b before) rest := by
  induction before generalizing b with
  | nil => exact h
  | cons c before ih => exact ih h.2

lemma Along.after {P : QueryBuilder → Prop} {calls : List Call} (h : Along unicode step last b calls)
    (hproc : ∀ c ∈ calls, c.isProcedure = false)
    (hstep : ∀ b c, c.isProcedure = false → step b c → P b → P (c.run unicode b)) (hb : P b) :
    P (after unicode b calls) ∧ last (after unicode b calls) := by
  induction calls generalizing b with
  | nil => exact ⟨hb, h⟩
  | cons c calls ih =>
    exact ih h.2 (fun d hd => hproc d (List.mem_cons_of_mem c hd)) (hstep b c (hproc c List.mem_cons_self) h.1 hb)

end

end QueryBuilder

end Voyager
