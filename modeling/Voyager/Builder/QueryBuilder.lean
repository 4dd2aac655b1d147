import Voyager.Builder.Labels

/-! The query builder: it collects the parts of the clause that is open and writes finished clauses to the arena. -/

namespace Voyager

/-- The sum is one of 32 bits, which wraps around in the release build. -/
def remapHandle (offset : ℕ) (h : NodeHandle) : NodeHandle := if h.isNull then h else (h + offset) % 2 ^ 32

namespace AstNode

def mapHandles (f : NodeHandle → NodeHandle) : AstNode → AstNode
  | nodePattern var labels predicates => nodePattern var labels (predicates.map f)
  | edgePattern var labels direction minHops maxHops predicates targetNode =>
    edgePattern var labels direction minHops maxHops (predicates.map f) (f targetNode)
  | pathChain pathVariable pathMode startNode edges => pathChain pathVariable pathMode (f startNode) (edges.map f)
  | binaryExpression left op right => binaryExpression (f left) op (f right)
  | unaryExpression op operand => unaryExpression op (f operand)
  | functionCall name arguments => functionCall name (arguments.map f)
  | caseExpression operand branches elseBranch =>
    caseExpression (operand.map f) (branches.map fun b => (f b.1, f b.2)) (elseBranch.map f)
  | listComprehension var listExpression whereFilter mapExpression =>
    listComprehension var (f listExpression) (whereFilter.map f) (mapExpression.map f)
  | patternComprehension path whereFilter projection =>
    patternComprehension (f path) (whereFilter.map f) (f projection)
  | existsSubquery subquery => existsSubquery (f subquery)
  | countSubquery subquery => countSubquery (f subquery)
  | listLiteral items => listLiteral (items.map f)
  | propertyAccess target property => propertyAccess (f target) property
  | unwindClause expression aliasName => unwindClause (f expression) aliasName
  | whereClause rootPredicate => whereClause (f rootPredicate)
  | matchClause optional paths condition => matchClause optional (paths.map f) (condition.map f)
  | returnClause distinct projections orderBy skip limit =>
    returnClause distinct (projections.map fun p => { p with expression := f p.expression })
      (orderBy.map fun o => (f o.1, o.2)) skip limit
  | procedureCall mode ns procedure arguments yieldItems =>
    procedureCall mode ns procedure (arguments.map f) yieldItems
  | createClause paths => createClause (paths.map f)
  | mergeClause path onCreateSet onMatchSet => mergeClause (f path) (onCreateSet.map f) (onMatchSet.map f)
  | setClause items => setClause (items.map f)
  | setItem target value isMerge => setItem (f target) (f value) isMerge
  | deleteClause detach targets => deleteClause detach (targets.map f)
  | removeClause items => removeClause (items.map f)
  | loadCsvClause url withHeaders aliasName => loadCsvClause (f url) withHeaders aliasName
  | withClause distinct projections orderBy skip limit condition =>
    withClause distinct (projections.map fun p => { p with expression := f p.expression })
      (orderBy.map fun o => (f o.1, o.2)) skip limit (condition.map f)
  | letClause var expression => letClause var (f expression)
  | filterClause predicate => filterClause (f predicate)
  | queryStatement mode loadCsv unwinds matches_ linearClauses withClauses mutations ret =>
    queryStatement mode (loadCsv.map f) (unwinds.map f) (matches_.map f) (linearClauses.map f) (withClauses.map f)
      (mutations.map f) (ret.map f)
  | literal value => literal value
  | identifier name => identifier name
  | parameter name => parameter name

end AstNode

def remapAstNode (offset : ℕ) (node : AstNode) : AstNode := node.mapHandles (remapHandle offset)

def ExecutionMode.withExplain : ExecutionMode → ExecutionMode
  | normal | explain => explain
  | profile | explainAndProfile => explainAndProfile

def ExecutionMode.withProfile : ExecutionMode → ExecutionMode
  | normal | profile => profile
  | explain | explainAndProfile => explainAndProfile

structure PendingEdge where
  direction : Direction
  labelExpression : Option LabelExpression
  var : Option String
  minHops : Option ℕ
  maxHops : Option ℕ

inductive ClauseMode
  | match_ | optionalMatch | create | merge | with_
deriving DecidableEq, Repr

structure QueryBuilder where
  arena : QueryAstArena
  executionMode : ExecutionMode
  loadCsvClause : Option NodeHandle
  unwindClauses : List NodeHandle
  matchClauses : List NodeHandle
  linearClauses : List NodeHandle
  withClauses : List NodeHandle
  mutationClauses : List NodeHandle
  procedureCall : Option NodeHandle
  clauseMode : Option ClauseMode
  isOptionalMatch : Bool
  currentPathStart : Option NodeHandle
  currentPathMode : PathMode
  currentPathVariable : Option String
  currentEdges : List NodeHandle
  currentMatchPaths : List NodeHandle
  pendingEdge : Option PendingEdge
  currentWherePredicates : List NodeHandle
  currentOnCreateSet : List NodeHandle
  currentOnMatchSet : List NodeHandle
  currentSetItems : List NodeHandle
  projections : List ProjectionItem
  orderBys : List (NodeHandle × Bool)
  isDistinct : Bool
  limitRows : Option ℕ
  skipRows : Option ℕ

namespace QueryBuilder

def new : QueryBuilder where
  arena := ⟨[]⟩
  executionMode := .normal
  loadCsvClause := none
  unwindClauses := []
  matchClauses := []
  linearClauses := []
  withClauses := []
  mutationClauses := []
  procedureCall := none
  clauseMode := none
  isOptionalMatch := false
  currentPathStart := none
  currentPathMode := .none
  currentPathVariable := none
  currentEdges := []
  currentMatchPaths := []
  pendingEdge := none
  currentWherePredicates := []
  currentOnCreateSet := []
  currentOnMatchSet := []
  currentSetItems := []
  projections := []
  orderBys := []
  isDistinct := false
  limitRows := none
  skipRows := none

def alloc (node : AstNode) (b : QueryBuilder) : NodeHandle × QueryBuilder :=
  ((b.arena.alloc node).1, { b with arena := (b.arena.alloc node).2 })

def ident (name : String) : QueryBuilder → NodeHandle × QueryBuilder := alloc (.identifier name)

def literal (val : LiteralValue) : QueryBuilder → NodeHandle × QueryBuilder := alloc (.literal val)

def param (name : String) : QueryBuilder → NodeHandle × QueryBuilder := alloc (.parameter name)

def prop (varName property : String) (b : QueryBuilder) : NodeHandle × QueryBuilder :=
  let (target, b) := b.ident varName
  b.alloc (.propertyAccess target property)

def binaryExpr (left : NodeHandle) (op : BinaryOp) (right : NodeHandle) : QueryBuilder → NodeHandle × QueryBuilder :=
  alloc (.binaryExpression left op right)

def unaryExpr (op : UnaryOp) (operand : NodeHandle) : QueryBuilder → NodeHandle × QueryBuilder :=
  alloc (.unaryExpression op operand)

def function (name : String) (arguments : List NodeHandle) : QueryBuilder → NodeHandle × QueryBuilder :=
  alloc (.functionCall name arguments)

def caseWhen (operand : Option NodeHandle) (branches : List (NodeHandle × NodeHandle))
    (elseBranch : Option NodeHandle) : QueryBuilder → NodeHandle × QueryBuilder :=
  alloc (.caseExpression operand branches elseBranch)

def listComprehension (var : String) (listExpression : NodeHandle) (whereFilter mapExpression : Option NodeHandle) :
    QueryBuilder → NodeHandle × QueryBuilder :=
  alloc (.listComprehension var listExpression whereFilter mapExpression)

def patternComprehension (path : NodeHandle) (whereFilter : Option NodeHandle) (projection : NodeHandle) :
    QueryBuilder → NodeHandle × QueryBuilder :=
  alloc (.patternComprehension path whereFilter projection)

variable (subquery : NodeHandle)

def existsSubquery : QueryBuilder → NodeHandle × QueryBuilder :=
  alloc (.existsSubquery subquery)

def countSubquery : QueryBuilder → NodeHandle × QueryBuilder :=
  alloc (.countSubquery subquery)

def listLiteral (items : List NodeHandle) : QueryBuilder → NodeHandle × QueryBuilder := alloc (.listLiteral items)

variable (b : QueryBuilder)

def takePath : Option NodeHandle × QueryBuilder :=
  match b.currentPathStart with
  | none => (none, b)
  | some startNode =>
    let isMutation := b.clauseMode == some .create || b.clauseMode == some .merge
    let pathMode := if isMutation then .none else b.currentPathMode
    let pathVariable := if isMutation then none else b.currentPathVariable
    let b := { b with currentPathStart := none, currentPathMode := .none, currentPathVariable := none }
    if b.currentEdges.isEmpty && pathMode == .none && pathVariable.isNone then (some startNode, b)
    else
      let (path, b) := b.alloc (.pathChain pathVariable pathMode startNode b.currentEdges)
      (some path, { b with currentEdges := [] })

def takeWhere : Option NodeHandle × QueryBuilder :=
  match b.currentWherePredicates with
  | [] => (none, b)
  | first :: rest =>
    let (rootPred, b) := rest.foldl
      (fun (combined, b) next => binaryExpr combined .and next b) (first, { b with currentWherePredicates := [] })
    let (condition, b) := b.alloc (.whereClause rootPred)
    (some condition, b)

def flushWith : QueryBuilder :=
  if b.projections.isEmpty then
    { b with
      currentWherePredicates := [], orderBys := [], isDistinct := false, skipRows := none, limitRows := none
      clauseMode := none }
  else
    let projections := b.projections
    let (condition, b) := takeWhere { b with projections := [] }
    let (clause, b) := b.alloc
      (.withClause b.isDistinct projections b.orderBys b.skipRows b.limitRows condition)
    { b with
      orderBys := [], isDistinct := false, skipRows := none, limitRows := none
      withClauses := b.withClauses ++ [clause], clauseMode := none }

def flushPaths (paths : List NodeHandle) (b : QueryBuilder) : QueryBuilder :=
  match paths, b.clauseMode with
  | [], _ => b
  | paths, some .create =>
    let (clause, b) := b.alloc (.createClause paths)
    { b with mutationClauses := b.mutationClauses ++ [clause] }
  | path :: _, some .merge =>
    let (clause, b) := b.alloc (.mergeClause path b.currentOnCreateSet b.currentOnMatchSet)
    { b with currentOnCreateSet := [], currentOnMatchSet := [], mutationClauses := b.mutationClauses ++ [clause] }
  | paths, _ =>
    let (condition, b) := b.takeWhere
    let (clause, b) := b.alloc (.matchClause b.isOptionalMatch paths condition)
    { b with matchClauses := b.matchClauses ++ [clause] }

def flushSet : QueryBuilder :=
  if b.currentSetItems.isEmpty then b
  else
    let (clause, b) := b.alloc (.setClause b.currentSetItems)
    { b with currentSetItems := [], mutationClauses := b.mutationClauses ++ [clause] }

def flushCurrentPath : QueryBuilder :=
  if b.clauseMode == some .with_ then b.flushWith
  else
    let paths := b.currentMatchPaths
    let (path, b) := takePath { b with currentMatchPaths := [] }
    (b.flushPaths (paths ++ path.toList)).flushSet

def unwindParam (paramName aliasName : String) (b : QueryBuilder) : QueryBuilder :=
  let (expr, b) := b.flushCurrentPath.param paramName
  let (unwind, b) := b.alloc (.unwindClause expr aliasName)
  { b with unwindClauses := b.unwindClauses ++ [unwind] }

def loadCsv (url : String) (withHeaders : Bool) (aliasName : String) (b : QueryBuilder) : QueryBuilder :=
  let (urlExpr, b) := b.flushCurrentPath.literal (.string url)
  let (clause, b) := b.alloc (.loadCsvClause urlExpr withHeaders aliasName)
  { b with loadCsvClause := some clause }

def match_ : QueryBuilder :=
  { b.flushCurrentPath with clauseMode := some .match_, isOptionalMatch := false }

def optionalMatch : QueryBuilder :=
  { b.flushCurrentPath with clauseMode := some .optionalMatch, isOptionalMatch := true }

def create : QueryBuilder := { b.flushCurrentPath with clauseMode := some .create }

def merge : QueryBuilder := { b.flushCurrentPath with clauseMode := some .merge }

section

variable (var property : String) (expr : NodeHandle) (b : QueryBuilder)

def assignment : NodeHandle × QueryBuilder :=
  let (target, b) := b.prop var property
  b.alloc (.setItem target expr false)

def onCreateSetExpr : QueryBuilder :=
  let (item, b) := b.assignment var property expr
  { b with currentOnCreateSet := b.currentOnCreateSet ++ [item] }

def onMatchSetExpr : QueryBuilder :=
  let (item, b) := b.assignment var property expr
  { b with currentOnMatchSet := b.currentOnMatchSet ++ [item] }

def setPropertyExpr : QueryBuilder :=
  let (item, b) := b.assignment var property expr
  { b with currentSetItems := b.currentSetItems ++ [item] }

end

def idents : List String → QueryBuilder → List NodeHandle × QueryBuilder
  | [], b => ([], b)
  | name :: names, b =>
    let (h, b) := b.ident name
    let (hs, b) := idents names b
    (h :: hs, b)

def deleteWith (detach : Bool) (targets : List String) (b : QueryBuilder) : QueryBuilder :=
  let (handles, b) := b.flushCurrentPath.idents targets
  let (del, b) := b.alloc (.deleteClause detach handles)
  { b with mutationClauses := b.mutationClauses ++ [del] }

def delete (targets : List String) : QueryBuilder → QueryBuilder := deleteWith false targets

def detachDelete (targets : List String) : QueryBuilder → QueryBuilder := deleteWith true targets

def removeProperty (var property : String) (b : QueryBuilder) : QueryBuilder :=
  let (target, b) := b.flushCurrentPath.prop var property
  let (rem, b) := b.alloc (.removeClause [target])
  { b with mutationClauses := b.mutationClauses ++ [rem] }

def nodePatternInternal (var : Option String) (labels : Option LabelExpression) (b : QueryBuilder) : QueryBuilder :=
  let (node, b) := b.alloc (.nodePattern var labels [])
  match b.pendingEdge with
  | some pending =>
    let (edge, b) := alloc (.edgePattern pending.var pending.labelExpression pending.direction pending.minHops
      pending.maxHops [] node) { b with pendingEdge := none }
    { b with currentEdges := b.currentEdges ++ [edge] }
  | none =>
    let b := if b.currentPathStart.isSome then b.flushCurrentPath else b
    { b with currentPathStart := some node }

variable (unicode : Unicode)

def node (var : Option String) (labels : List String) : QueryBuilder → QueryBuilder :=
  nodePatternInternal var (LabelExpression.fromLabels unicode labels)

def edgeWith (direction : Direction) (edgeTypes : List String) (var : Option String) (b : QueryBuilder) :
    QueryBuilder :=
  { b with pendingEdge := some ⟨direction, LabelExpression.fromEdgeTypes unicode edgeTypes, var, none, none⟩ }

variable (edgeTypes : List String)

def to_ (var : Option String) : QueryBuilder → QueryBuilder :=
  edgeWith unicode .outgoing edgeTypes var

def from_ (var : Option String) : QueryBuilder → QueryBuilder :=
  edgeWith unicode .incoming edgeTypes var

def edge (var : Option String) : QueryBuilder → QueryBuilder :=
  edgeWith unicode .undirected edgeTypes var

def setHops (min max : ℕ) : AstNode → AstNode
  | .edgePattern var labels direction _ _ predicates targetNode =>
    .edgePattern var labels direction (some min) (some max) predicates targetNode
  | other => other

def hops (min max : ℕ) (b : QueryBuilder) : QueryBuilder :=
  match b.pendingEdge, b.currentEdges.getLast? with
  | some pending, _ => { b with pendingEdge := some { pending with minHops := some min, maxHops := some max } }
  | none, some edge =>
    match b.arena.modify edge (setHops min max) with
    | .ok arena => { b with arena }
    | .error _ => b
  | none, none => b

def pathVariable (var : String) (b : QueryBuilder) : QueryBuilder := { b with currentPathVariable := some var }

def pathMode (mode : PathMode) (b : QueryBuilder) : QueryBuilder := { b with currentPathMode := mode }

def pattern : QueryBuilder :=
  let (path, b) := b.takePath
  { b with currentMatchPaths := b.currentMatchPaths ++ path.toList }

variable (arena : QueryAstArena)

def modeOfPath (path : NodeHandle) : Option PathMode :=
  match arena.get path with
  | .ok (.pathChain _ mode _ _) => if mode == .none then none else some mode
  | _ => none

def modeOfMatch (clause : NodeHandle) : Option PathMode :=
  match arena.get clause with
  | .ok (.matchClause _ paths _) => paths.findSome? (modeOfPath arena)
  | _ => none

def getPathMode : Option String :=
  if b.currentPathMode != .none then some b.currentPathMode.asStr
  else
    (b.currentMatchPaths.findSome? (modeOfPath b.arena) <|>
      b.matchClauses.findSome? (modeOfMatch b.arena)).map PathMode.asStr

variable (predicate : NodeHandle)

def whereExpr (b : QueryBuilder) : QueryBuilder :=
  { b with currentWherePredicates := b.currentWherePredicates ++ [predicate] }

def with_ : QueryBuilder :=
  { b.flushCurrentPath with
    clauseMode := some .with_, projections := [], orderBys := [], isDistinct := false, skipRows := none
    limitRows := none }

def return_ : QueryBuilder := b.flushCurrentPath

def select (item : ProjectionItem) (b : QueryBuilder) : QueryBuilder :=
  { b with projections := b.projections ++ [item] }

variable (expression : NodeHandle)

def selectExpr (aliasName : Option String) : QueryBuilder → QueryBuilder :=
  select ⟨expression, aliasName, none⟩

def field (var property : String) (aliasName : Option String) (b : QueryBuilder) : QueryBuilder :=
  let (expr, b) := b.prop var property
  b.selectExpr expr aliasName

def selectAggregate (func : AggregationFunc) (aliasName : Option String) : QueryBuilder → QueryBuilder :=
  select ⟨expression, aliasName, some func⟩

def selectPropertyAggregate (var property : String) (func : AggregationFunc) (aliasName : Option String)
    (b : QueryBuilder) : QueryBuilder :=
  let (expr, b) := b.prop var property
  b.selectAggregate expr func aliasName

def distinct (isDistinct : Bool) (b : QueryBuilder) : QueryBuilder := { b with isDistinct }

def orderBy (expr : NodeHandle) (ascending : Bool) (b : QueryBuilder) : QueryBuilder :=
  { b with orderBys := b.orderBys ++ [(expr, ascending)] }

def orderByProperty (var property : String) (ascending : Bool) (b : QueryBuilder) : QueryBuilder :=
  let (expr, b) := b.prop var property
  b.orderBy expr ascending

def limit (rows : ℕ) (b : QueryBuilder) : QueryBuilder := { b with limitRows := some rows }

def skip (rows : ℕ) (b : QueryBuilder) : QueryBuilder := { b with skipRows := some rows }

def offset (rows : ℕ) : QueryBuilder → QueryBuilder := skip rows

def let_ (var : String) (expression : NodeHandle) (b : QueryBuilder) : QueryBuilder :=
  let (h, b) := b.flushCurrentPath.alloc (.letClause var expression)
  { b with linearClauses := b.linearClauses ++ [h] }

def filter_ (b : QueryBuilder) : QueryBuilder :=
  let (h, b) := b.flushCurrentPath.alloc (.filterClause predicate)
  { b with linearClauses := b.linearClauses ++ [h] }

def explain : QueryBuilder := { b with executionMode := b.executionMode.withExplain }

def profile : QueryBuilder := { b with executionMode := b.executionMode.withProfile }

def setMode (mode : ExecutionMode) : AstNode → AstNode
  | .procedureCall _ ns procedure arguments yieldItems => .procedureCall mode ns procedure arguments yieldItems
  | other => other

def buildReturn : Option NodeHandle × QueryBuilder :=
  if b.projections.isEmpty then (none, b)
  else
    let (ret, b) := b.alloc (.returnClause b.isDistinct b.projections b.orderBys b.skipRows b.limitRows)
    (some ret, b)

def build : QueryAstArena × NodeHandle :=
  match b.procedureCall with
  | some call =>
    match b.arena.modify call (setMode b.executionMode) with
    | .ok arena => (arena, call)
    | .error _ => (b.arena, call)
  | none =>
    let (ret, b) := b.flushCurrentPath.buildReturn
    let (root, b) := b.alloc (.queryStatement b.executionMode b.loadCsvClause b.unwindClauses b.matchClauses
      b.linearClauses b.withClauses b.mutationClauses ret)
    (b.arena, root)

def importSubarena (subArena : QueryAstArena) (subRoot : NodeHandle) (b : QueryBuilder) : NodeHandle × QueryBuilder :=
  let offset := b.arena.len % 2 ^ 32
  (remapHandle offset subRoot,
    { b with arena := ⟨b.arena.nodes ++ subArena.nodes.map (remapAstNode offset)⟩ })

end QueryBuilder

end Voyager
