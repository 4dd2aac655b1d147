import Voyager.Python.Value

/-! How a query specification is read into a query builder. -/

namespace Voyager.Python

abbrev SpecM := StateT QueryBuilder (Except PyErr)

structure Readers where
  expression : Value → ℕ → SpecM NodeHandle
  query : List (Value × Value) → SpecM Unit

def parseBinaryOp (s : String) : Except PyErr BinaryOp :=
  match s.toLower with
  | "=" | "eq" => .ok .eq
  | "!=" | "ne" | "neq" | "<>" => .ok .neq
  | "<" | "lt" => .ok .lt
  | "<=" | "lte" | "le" => .ok .lte
  | ">" | "gt" => .ok .gt
  | ">=" | "gte" | "ge" => .ok .gte
  | "in" => .ok .in
  | "not_in" | "not in" => .ok .notIn
  | "contains" => .ok .contains
  | "starts_with" | "startswith" => .ok .startsWith
  | "ends_with" | "endswith" => .ok .endsWith
  | "=~" | "regex" => .ok .regexMatch
  | "and" | "&" => .ok .and
  | "or" | "|" => .ok .or
  | "xor" | "^" => .ok .xor
  | "+" | "add" => .ok .add
  | "||" | "concat" => .ok .concat
  | "-" | "sub" => .ok .sub
  | "*" | "mul" => .ok .mul
  | "/" | "div" => .ok .div
  | "%" | "mod" => .ok .mod
  | other => .error (.valueError ("Unknown binary operator: '" ++ other ++ "'"))

def parseUnaryOp (s : String) : Except PyErr UnaryOp :=
  match s.toLower with
  | "not" | "~" => .ok .not
  | "-" | "neg" => .ok .neg
  | "is_null" | "is null" => .ok .isNull
  | "is_not_null" | "is not null" => .ok .isNotNull
  | other => .error (.valueError ("Unknown unary operator: '" ++ other ++ "'"))

def maxAstDepth : ℕ := 256

def isKnownExprTag (tag : String) : Bool :=
  tag ∈ ["prop", "ident", "param", "lit", "literal", "bin", "unary", "fn", "func", "call", "case", "list_comp",
    "pattern_comp", "exists", "count", "list", "alias"]

def parseDirection (s : String) : Except PyErr Direction :=
  match s.toLower with
  | "out" | "outgoing" | "->" => .ok .outgoing
  | "in" | "incoming" | "<-" => .ok .incoming
  | "undirected" | "both" | "-" | "--" => .ok .undirected
  | other => .error (.voyagerError .invalidClause ("Invalid edge direction '" ++ other ++
      "'. Expected 'outgoing' ('out', '->'), 'incoming' ('in', '<-'), or 'undirected' ('both', '-', '--')."))

def parsePathMode (s : String) : PathMode :=
  match s.toLower with
  | "trail" => .trail
  | "simple" => .simple
  | "acyclic" => .acyclic
  | "walk" => .walk
  | _ => .none

def checkVersion (entries : List (Value × Value)) (invalid unsupported : String) : Except PyErr Unit :=
  match getItem? entries "spec_version" with
  | none => .ok ()
  | some item =>
    match item.asU32 with
    | .error _ => .error (.voyagerError .invalidSpec invalid)
    | .ok version =>
      if version = 1 then .ok ()
      else .error (.voyagerError .invalidSpec
        ("Unsupported " ++ unsupported ++ ": " ++ toString version ++ ". Supported major versions: 1."))

section

variable (unicode : Unicode)

def buildPathStep (step : Value) : SpecM Unit := do
  match step.items? with
  | none => throw (.voyagerError .invalidClause "Expected path step tuple or list")
  | some step =>
    let tag ← (← getItem step 0).asStr
    match tag with
    | "node" =>
      let var ← (← getItem step 1).asOptionStr
      let labels ← (← getItem step 2).asStrs
      modify (·.node unicode var labels)
    | "edge" =>
      let direction ← parseDirection (← (← getItem step 1).asStr)
      let edgeTypes ← (← getItem step 2).asStrs
      let var ← (← getItem step 3).asOptionStr
      let minHops ← (← getItem step 4).asOptionU32
      let maxHops ← (← getItem step 5).asOptionU32
      match direction with
      | .outgoing => modify (·.to_ unicode edgeTypes var)
      | .incoming => modify (·.from_ unicode edgeTypes var)
      | .undirected => modify (·.edge unicode edgeTypes var)
      if minHops.isSome || maxHops.isSome then
        let min := minHops.getD 1
        modify (·.hops min (maxHops.getD min))
    | other =>
      throw (.voyagerError .invalidClause
        ("Unknown path step tag: '" ++ other ++ "'. Expected 'node' or 'edge'."))

def buildPathStepsIntoBuilder (steps : List Value) : SpecM Unit := steps.forM (buildPathStep unicode)

def buildPaths (paths : List Value) : SpecM Unit :=
  paths.zipIdx.forM fun (path, idx) => do
    if idx > 0 then modify QueryBuilder.pattern
    match path.asList with
    | .ok steps => buildPathStepsIntoBuilder unicode steps
    | .error _ => pure ()

def subquery (body : SpecM Unit) : SpecM NodeHandle := do
  let (_, sub) ← liftM (body.run .new)
  let (arena, root) := sub.build
  modifyGet (·.importSubarena arena root)

def importBuilder (sub : QueryBuilder) : SpecM NodeHandle :=
  let (arena, root) := sub.build
  modifyGet (·.importSubarena arena root)

variable (c : Readers)

def pyToNodeHandle (v : Value) : SpecM NodeHandle := c.expression v 0

def buildPathFromPy (spec : Value) : SpecM NodeHandle :=
  match spec.native?, spec.asList with
  | some sub, _ => importBuilder sub
  | none, .ok steps => subquery (buildPathStepsIntoBuilder unicode steps)
  | none, .error _ => pyToNodeHandle c spec

def buildSubqueryFromPy (spec : Value) : SpecM NodeHandle :=
  match spec.native?, spec.asDict, spec.asList with
  | some sub, _, _ => importBuilder sub
  | none, .ok entries, _ => subquery (c.query entries)
  | none, .error _, .ok steps =>
    subquery do
      modify QueryBuilder.match_
      buildPathStepsIntoBuilder unicode steps
  | none, .error _, .error _ => pyToNodeHandle c spec

def readOptional (depth : ℕ) (v : Value) : SpecM (Option NodeHandle) :=
  if v.isNone then pure none else some <$> c.expression v depth

def readTagged (depth : ℕ) (parts : List Value) : SpecM NodeHandle := do
  let tag ← (← getItem parts 0).asStr
  match tag with
  | "prop" =>
    let var ← (← getItem parts 1).asStr
    let property ← (← getItem parts 2).asStr
    modifyGet (·.prop var property)
  | "ident" =>
    let name ← (← getItem parts 1).asStr
    modifyGet (·.ident name)
  | "param" =>
    let name ← (← getItem parts 1).asStr
    modifyGet (·.param name)
  | "lit" | "literal" =>
    let lit ← (← getItem parts 1).toLiteral
    modifyGet (·.literal lit)
  | "bin" =>
    let op ← parseBinaryOp (← (← getItem parts 1).asStr)
    let left ← c.expression (← getItem parts 2) (depth + 1)
    let right ← c.expression (← getItem parts 3) (depth + 1)
    modifyGet (·.binaryExpr left op right)
  | "unary" =>
    let op ← parseUnaryOp (← (← getItem parts 1).asStr)
    let operand ← c.expression (← getItem parts 2) (depth + 1)
    modifyGet (·.unaryExpr op operand)
  | "fn" | "func" | "call" =>
    let name ← (← getItem parts 1).asStr
    let args ← (← getItem parts 2).asList
    let handles ← args.mapM (c.expression · (depth + 1))
    modifyGet (·.function name handles)
  | "case" =>
    let operand ← readOptional c (depth + 1) (← getItem parts 1)
    let branches ← (← getItem parts 2).asList
    let branches ← branches.mapM fun branch => do
      let branch ← branch.asTuple
      let condition ← c.expression (← getItem branch 0) (depth + 1)
      let result ← c.expression (← getItem branch 1) (depth + 1)
      pure (condition, result)
    let elseBranch ← readOptional c (depth + 1) (← getItem parts 3)
    modifyGet (·.caseWhen operand branches elseBranch)
  | "list_comp" =>
    let var ← (← getItem parts 1).asStr
    let listExpression ← c.expression (← getItem parts 2) (depth + 1)
    let whereFilter ← readOptional c (depth + 1) (← getItem parts 3)
    let mapExpression ← readOptional c (depth + 1) (← getItem parts 4)
    modifyGet (·.listComprehension var listExpression whereFilter mapExpression)
  | "pattern_comp" =>
    let path ← buildPathFromPy unicode c (← getItem parts 1)
    let whereFilter ← readOptional c (depth + 1) (← getItem parts 2)
    let projection ← c.expression (← getItem parts 3) (depth + 1)
    modifyGet (·.patternComprehension path whereFilter projection)
  | "exists" =>
    let sub ← buildSubqueryFromPy unicode c (← getItem parts 1)
    modifyGet (·.existsSubquery sub)
  | "count" =>
    let sub ← buildSubqueryFromPy unicode c (← getItem parts 1)
    modifyGet (·.countSubquery sub)
  | "list" =>
    let items ← (← getItem parts 1).asList
    let handles ← items.mapM (c.expression · (depth + 1))
    modifyGet (·.listLiteral handles)
  | "alias" => c.expression (← getItem parts 1) (depth + 1)
  | other => throw (.voyagerError .invalidClause ("Unknown expression tuple tag: '" ++ other ++ "'"))

def readDict (depth : ℕ) (entries : List (Value × Value)) : SpecM NodeHandle := do
  checkVersion entries "Invalid 'spec_version' in expression dictionary: expected integer 1."
    "expression spec_version"
  match getItem? entries "expr" with
  | some inner => c.expression inner (depth + 1)
  | none => subquery (c.query entries)

def taggedParts? (v : Value) : Option (List Value) :=
  match v.base with
  | .tuple items => some items
  | .list items =>
    match items[0]?.map Value.asStr with
    | some (.ok tag) => if isKnownExprTag tag then some items else none
    | _ => none
  | _ => none

def pyToNodeHandleDepth (v : Value) (depth : ℕ) : SpecM NodeHandle :=
  if depth > maxAstDepth then
    throw (.valueError ("Maximum AST expression recursion depth exceeded (" ++ toString maxAstDepth ++
      "). Query is too deeply nested."))
  else
    match v.nativeExpr?, v.asDict, taggedParts? v with
    | some (arena, handle), _, _ => modifyGet (·.importSubarena arena handle)
    | none, .ok entries, _ => readDict c depth entries
    | none, .error _, some [] => throw (.voyagerError .invalidClause "Empty expression tuple")
    | none, .error _, some parts => readTagged unicode c depth parts
    | none, .error _, none =>
      match v.toLiteral with
      | .ok lit => modifyGet (·.literal lit)
      | .error _ => throw (.voyagerError .invalidSpec
          ("Cannot convert Python object to AST node handle: " ++ v.typeText))

def listUnder (entries : List (Value × Value)) (name : String) : List Value :=
  match (getItem? entries name).map Value.asList with
  | some (.ok items) => items
  | _ => []

def readWhere (entries : List (Value × Value)) : SpecM Unit :=
  match getItem? entries "where" with
  | none => pure ()
  | some condition =>
    match condition.asList with
    | .ok conditions => conditions.forM fun condition => do
        let h ← pyToNodeHandle c condition
        modify (·.whereExpr h)
    | .error _ =>
      if condition.isNone then pure ()
      else do
        let h ← pyToNodeHandle c condition
        modify (·.whereExpr h)

def readLoadCsv (entries : List (Value × Value)) : SpecM Unit :=
  match getItem? entries "load_csv" with
  | none => pure ()
  | some item =>
    if item.isNone then pure ()
    else do
      let parts ← item.asTuple
      let url ← (← getItem parts 0).asStr
      let withHeaders ← (← getItem parts 1).asBool
      let aliasName ← (← getItem parts 2).asStr
      modify (·.loadCsv url withHeaders aliasName)

def readUnwind (item : Value) : SpecM Unit := do
  let parts ← item.asTuple
  let paramName ← (← getItem parts 0).asStr
  let aliasName ← (← getItem parts 1).asStr
  modify (·.unwindParam paramName aliasName)

def ifReadable {α : Type} (entries : List (Value × Value)) (name : String) (read : Value → Except PyErr α)
    (use : α → QueryBuilder → QueryBuilder) : SpecM Unit :=
  match (getItem? entries name).map read with
  | some (.ok a) => modify (use a)
  | _ => pure ()

def readMatch (clause : Value) : SpecM Unit := do
  let entries ← clause.asDict
  checkVersion entries "Invalid 'spec_version' in match clause: expected an integer major version number."
    "match clause spec_version"
  match (getItem? entries "optional").map Value.asBool with
  | some (.ok true) => modify QueryBuilder.optionalMatch
  | _ => modify QueryBuilder.match_
  ifReadable entries "path_mode" Value.asStr fun mode b => b.pathMode (parsePathMode mode)
  ifReadable entries "path_variable" Value.asStr fun var b => b.pathVariable var
  buildPaths unicode (listUnder entries "paths")
  readWhere c entries

def readAssignment (use : String → String → NodeHandle → QueryBuilder → QueryBuilder) (item : Value) :
    SpecM Unit := do
  let parts ← item.asTuple
  let var ← (← getItem parts 0).asStr
  let property ← (← getItem parts 1).asStr
  let value ← pyToNodeHandle c (← getItem parts 2)
  modify (use var property value)

def readAssignments (use : String → String → NodeHandle → QueryBuilder → QueryBuilder) (v : Value) : SpecM Unit :=
  match v.asList with
  | .ok items => items.forM (readAssignment c use)
  | .error _ => pure ()

def readMutation (item : Value) : SpecM Unit := do
  match item.items? with
  | none => throw (.voyagerError .invalidClause "Expected mutation tuple or list")
  | some parts =>
    let tag ← (← getItem parts 0).asStr
    match tag with
    | "create" =>
      modify QueryBuilder.create
      buildPaths unicode (← (← getItem parts 1).asList)
    | "merge" =>
      modify QueryBuilder.merge
      buildPathStepsIntoBuilder unicode (← (← getItem parts 1).asList)
      readAssignments c QueryBuilder.onCreateSetExpr (← getItem parts 2)
      readAssignments c QueryBuilder.onMatchSetExpr (← getItem parts 3)
    | "set" =>
      let var ← (← getItem parts 1).asStr
      let property ← (← getItem parts 2).asStr
      let value ← pyToNodeHandle c (← getItem parts 3)
      modify (·.setPropertyExpr var property value)
    | "delete" =>
      let detach ← (← getItem parts 1).asBool
      let targets ← (← getItem parts 2).asStrs
      if detach then modify (·.detachDelete targets) else modify (·.delete targets)
    | "remove" =>
      let var ← (← getItem parts 1).asStr
      let property ← (← getItem parts 2).asStr
      modify (·.removeProperty var property)
    | other => throw (.voyagerError .invalidClause ("Unknown mutation tag: '" ++ other ++ "'"))

def parseAggregation (s : String) : Except PyErr AggregationFunc :=
  match unicode.toLowercase s with
  | "count" => .ok .count
  | "count_distinct" => .ok .countDistinct
  | "sum" => .ok .sum
  | "avg" => .ok .avg
  | "min" => .ok .min
  | "max" => .ok .max
  | "collect" => .ok .collect
  | other => .error (.voyagerError .invalidClause ("Unknown aggregation function '" ++ other ++
      "'. Expected count, count_distinct, sum, avg, min, max, collect."))

def innerAlias (expr : Value) : Except PyErr (Option String) :=
  match expr.asTuple with
  | .ok (tag :: parts) =>
    if tag.isStr "alias" then do
      let name ← getItem (tag :: parts) 2
      .ok (name.asStr.toOption)
    else .ok none
  | _ => .ok none

def readProjection (item : Value) : SpecM Unit := do
  match item.items? with
  | none => throw (.voyagerError .invalidClause "Expected projection tuple or list")
  | some parts =>
    let tag ← (← getItem parts 0).asStr
    match tag with
    | "field" =>
      let var ← (← getItem parts 1).asStr
      let property ← (← getItem parts 2).asStr
      let aliasName ← (← getItem parts 3).asOptionStr
      modify (·.field var property aliasName)
    | "agg" =>
      let var ← (← getItem parts 1).asStr
      let property ← (← getItem parts 2).asStr
      let func ← (← getItem parts 3).asStr
      let aliasName ← (← getItem parts 4).asOptionStr
      let agg ← parseAggregation unicode func
      if property == "*" || property.isEmpty then
        let expr ← modifyGet (·.ident var)
        modify (·.selectAggregate expr agg aliasName)
      else modify (·.selectPropertyAggregate var property agg aliasName)
    | "expr" =>
      let expr ← getItem parts 1
      let aliasName ← (← getItem parts 2).asOptionStr
      let aliasName ← if aliasName.isSome then pure aliasName else innerAlias expr
      let h ← pyToNodeHandle c expr
      modify (·.selectExpr h aliasName)
    | other =>
      throw (.voyagerError .invalidClause
        ("Unknown projection tag '" ++ other ++ "'. Expected 'field', 'agg', or 'expr'."))

def readDistinct (entries : List (Value × Value)) : SpecM Unit :=
  ifReadable entries "distinct" Value.asBool fun distinct b => if distinct then b.distinct true else b

def readOrderItem (item : Value) : SpecM Unit := do
  let parts ← item.asTuple
  let first ← getItem parts 0
  match first.asStr with
  | .ok var =>
    let property ← (← getItem parts 1).asStr
    let ascending ← (← getItem parts 2).asBool
    modify (·.orderByProperty var property ascending)
  | .error _ =>
    let expr ← pyToNodeHandle c first
    let ascending ← (← getItem parts 1).asBool
    modify (·.orderBy expr ascending)

def readWith (clause : Value) : SpecM Unit := do
  let entries ← clause.asDict
  checkVersion entries "Invalid 'spec_version' in with clause: expected an integer major version number."
    "with clause spec_version"
  modify QueryBuilder.with_
  readDistinct entries
  (listUnder entries "projections").forM (readProjection unicode c)
  readWhere c entries
  (listUnder entries "order_by").forM (readOrderItem c)
  ifReadable entries "skip" Value.asU64 QueryBuilder.skip
  ifReadable entries "limit" Value.asU64 QueryBuilder.limit

def readReturn (projections : List Value) : SpecM Unit := do
  if !projections.isEmpty then
    modify QueryBuilder.return_
    projections.forM (readProjection unicode c)

def readLinear (item : Value) : SpecM Unit := do
  let parts ← item.asTuple
  let tag ← (← getItem parts 0).asStr
  match tag with
  | "let" =>
    let var ← (← getItem parts 1).asStr
    let expr ← pyToNodeHandle c (← getItem parts 2)
    modify (·.let_ var expr)
  | "filter" =>
    let predicate ← pyToNodeHandle c (← getItem parts 1)
    modify (·.filter_ predicate)
  | _ => pure ()

def applyMode (mode : String) (b : QueryBuilder) : QueryBuilder :=
  match mode.toLower with
  | "explain" => b.explain
  | "profile" => b.profile
  | "explain_and_profile" => b.explain.profile
  | _ => b

def buildQueryFromSpecInternal (entries : List (Value × Value)) : SpecM Unit := do
  if (getItem? entries "spec_version").isNone then
    throw (.voyagerError .invalidSpec
      "Missing required 'spec_version' in query spec dictionary. Expected 'spec_version': 1.")
  checkVersion entries "Invalid 'spec_version': expected an integer major version number (e.g. 1)."
    "query spec_version"
  readLoadCsv entries
  (listUnder entries "unwinds").forM readUnwind
  (listUnder entries "matches").forM (readMatch unicode c)
  (listUnder entries "mutations").forM (readMutation unicode c)
  (listUnder entries "with_clauses").forM (readWith unicode c)
  readReturn unicode c (listUnder entries "projections")
  readDistinct entries
  (listUnder entries "order_by").forM (readOrderItem c)
  ifReadable entries "skip" Value.asU64 QueryBuilder.skip
  ifReadable entries "offset" Value.asU64 QueryBuilder.offset
  ifReadable entries "limit" Value.asU64 QueryBuilder.limit
  (listUnder entries "linear_clauses").forM (readLinear c)
  ifReadable entries "execution_mode" Value.asStr applyMode

end

def readers (unicode : Unicode) : ℕ → Readers
  | 0 => ⟨fun _ _ => throw (.core .outOfFuel), fun _ => throw (.core .outOfFuel)⟩
  | fuel + 1 =>
    { expression := pyToNodeHandleDepth unicode (readers unicode fuel)
      query := buildQueryFromSpecInternal unicode (readers unicode fuel) }

end Voyager.Python
