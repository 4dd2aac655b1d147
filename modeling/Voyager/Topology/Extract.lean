import Voyager.Builder.Labels

/-! The topology of a query: the nodes and edges of its patterns, as they are drawn out of the arena. -/

namespace Voyager

abbrev Properties := AList fun _ : String => LiteralValue

structure TopologyNode where
  id : String
  label : String
  labels : List String
  group : String
  size : ℕ
  properties : Properties
  data : Properties
  labelExpression : Option LabelExpression

structure TopologyEdge where
  id : String
  source : String
  target : String
  label : String
  types : List String
  direction : Direction
  color : String
  minHops : Option ℕ
  maxHops : Option ℕ
  properties : Properties
  data : Properties
  labelExpression : Option LabelExpression

structure GraphTopology where
  version : ℕ
  nodes : List TopologyNode
  edges : List TopologyEdge

namespace GraphTopology

structure Found where
  paths : List NodeHandle
  wheres : List NodeHandle

namespace Found

def nothing : Found := ⟨[], []⟩

def append (a b : Found) : Found := ⟨a.paths ++ b.paths, a.wheres ++ b.wheres⟩

def concat (found : List Found) : Found := found.foldl append nothing

end Found

section

variable (arena : QueryAstArena)

mutual

def collectPathsAndWheresFromRoot : ℕ → NodeHandle → Option Found
  | 0, _ => none
  | fuel + 1, root =>
    match arena.nodes[root]? with
    | some (.queryStatement _ _ _ matches_ _ withClauses mutations _) => do
      let inMatches ← matches_.mapM (collectPathsAndWheresFromRoot fuel)
      let inMutations ← mutations.mapM (collectPathsAndWheresFromRoot fuel)
      let inWiths ← withClauses.mapM fun (h : NodeHandle) =>
        match arena.nodes[h]? with
        | some (.withClause _ _ _ _ _ (some wh)) =>
          (Found.append ⟨[], [wh]⟩ ·) <$> descendExpressionForSubqueries fuel wh
        | _ => some .nothing
      some (.concat (inMatches ++ inMutations ++ inWiths))
    | some (.matchClause _ paths (some wh)) =>
      (Found.append ⟨paths, [wh]⟩ ·) <$> descendExpressionForSubqueries fuel wh
    | some (.matchClause _ paths none) => some ⟨paths, []⟩
    | some (.createClause paths) => some ⟨paths, []⟩
    | some (.mergeClause path _ _) => some ⟨[path], []⟩
    | some (.pathChain ..) | some (.nodePattern ..) => some ⟨[root], []⟩
    | some (.whereClause rootPredicate) =>
      (Found.append ⟨[], [root]⟩ ·) <$> descendExpressionForSubqueries fuel rootPredicate
    | some (.existsSubquery subquery) | some (.countSubquery subquery) => collectPathsAndWheresFromRoot fuel subquery
    | _ => some .nothing

def descendExpressionForSubqueries : ℕ → NodeHandle → Option Found
  | 0, _ => none
  | fuel + 1, handle =>
    match arena.nodes[handle]? with
    | some (.whereClause h) | some (.unaryExpression _ h) | some (.propertyAccess h _) | some (.setItem _ h _)
    | some (.unwindClause h _) => descendExpressionForSubqueries fuel h
    | some (.binaryExpression left _ right) =>
      Found.concat <$> [left, right].mapM (descendExpressionForSubqueries fuel)
    | some (.functionCall _ hs) | some (.listLiteral hs) | some (.procedureCall _ _ _ hs _) =>
      Found.concat <$> hs.mapM (descendExpressionForSubqueries fuel)
    | some (.caseExpression operand branches elseBranch) =>
      Found.concat <$> (operand.toList ++ branches.flatMap (fun b => [b.1, b.2]) ++ elseBranch.toList).mapM
        (descendExpressionForSubqueries fuel)
    | some (.listComprehension _ listExpression whereFilter mapExpression) =>
      Found.concat <$> (listExpression :: whereFilter.toList ++ mapExpression.toList).mapM
        (descendExpressionForSubqueries fuel)
    | some (.patternComprehension path whereFilter projection) => do
      let inPath ← collectPathsAndWheresFromRoot fuel path
      let inRest ← (whereFilter.toList ++ [projection]).mapM (descendExpressionForSubqueries fuel)
      some (.concat (inPath :: inRest))
    | some (.existsSubquery subquery) | some (.countSubquery subquery) => collectPathsAndWheresFromRoot fuel subquery
    | _ => some .nothing

end

def foundAt (h : NodeHandle) : AstNode → Found
  | .matchClause _ paths whereClause => ⟨paths, whereClause.toList⟩
  | .createClause paths => ⟨paths, []⟩
  | .mergeClause path _ _ => ⟨[path], []⟩
  | .pathChain .. => ⟨[h], []⟩
  | .whereClause _ => ⟨[], [h]⟩
  | _ => .nothing

def findPaths (fuel : ℕ) : Option NodeHandle → Option Found
  | some root => collectPathsAndWheresFromRoot arena fuel root
  | none => some (.concat (arena.nodes.zipIdx.map fun (node, h) => foundAt h node))

def literalEquation (h : NodeHandle) : Option (String × LiteralValue) :=
  match arena.nodes[h]? with
  | some (.binaryExpression left .eq right) =>
    match arena.nodes[left]?, arena.nodes[right]? with
    | some (.propertyAccess _ property), some (.literal lit) => some (property, lit)
    | some (.literal lit), some (.propertyAccess _ property) => some (property, lit)
    | _, _ => none
  | _ => none

def extractPredicatesToProps (predicates : List NodeHandle) : Properties :=
  predicates.foldl (fun props h =>
    match literalEquation arena h with
    | some (property, lit) => props.insert property lit
    | none => props) ∅

end

structure Extraction where
  nodesMap : AList fun _ : String => TopologyNode
  nodesOrder : List String
  edges : List TopologyEdge
  nodeCounter : ℕ
  edgeCounter : ℕ

def Extraction.start : Extraction := ⟨∅, [], [], 0, 0⟩

def extend (props more : Properties) : Properties := more.entries.foldl (fun acc e => acc.insert e.1 e.2) props

def addMissing (labels more : List String) : List String :=
  more.foldl (fun acc l => if acc.contains l then acc else acc ++ [l]) labels

def withVariable (var : Option String) (props : Properties) : Properties :=
  match var with
  | some v => props.insert "variable" (.string v)
  | none => props

section

variable (unicode : Unicode) (arena : QueryAstArena)

def nodeId (var : Option String) (primaryLabel : Option String) (counter : ℕ) : String :=
  match var.filter (· ≠ "") with
  | some v => v
  | none =>
    match primaryLabel with
    | some lbl => s!"{unicode.toLowercase lbl}_{counter}"
    | none => s!"n{counter}"

def mergeNode (labels : List String) (labelExpression : Option LabelExpression) (props : Properties)
    (node : TopologyNode) : TopologyNode :=
  { node with
    labels := addMissing node.labels labels
    labelExpression := node.labelExpression <|> labelExpression
    properties := extend node.properties props
    data := extend node.data props }

def newNode (id : String) (var : Option String) (labels : List String) (labelExpression : Option LabelExpression)
    (props : Properties) : TopologyNode where
  id := id
  label := (labels.head? <|> var).getD id
  labels := labels
  group := labels.head?.getD "Entity"
  size := 11
  properties := props
  data := withVariable var props
  labelExpression := labelExpression

def placeholder (id : String) : TopologyNode :=
  ⟨id, id, if id = "" then [] else [id], if id = "" then "Entity" else id, 11, ∅, ∅,
    if id = "" then none else some (.label id)⟩

def extractNodeFromHandle (handle : NodeHandle) (st : Extraction) : String × Extraction :=
  let counter := st.nodeCounter + 1
  match arena.nodes[handle]? with
  | some (.nodePattern var labelExpression predicates) =>
    let labels := (labelExpression.map LabelExpression.collectLabels).getD []
    let id := nodeId unicode var labels.head? counter
    let props := extractPredicatesToProps arena predicates
    match st.nodesMap.lookup id with
    | some node =>
      (id, { st with
        nodesMap := st.nodesMap.insert id (mergeNode labels labelExpression props node), nodeCounter := counter })
    | none =>
      (id, { st with
        nodesMap := st.nodesMap.insert id (newNode id var labels labelExpression props)
        nodesOrder := st.nodesOrder ++ [id], nodeCounter := counter })
  | _ =>
    let id := s!"n{counter}"
    if st.nodesMap.keys.contains id then (id, { st with nodeCounter := counter })
    else
      (id, { st with
        nodesMap := st.nodesMap.insert id (placeholder id), nodesOrder := st.nodesOrder ++ [id]
        nodeCounter := counter })

def mergeEdge (types : List String) (labelExpression : Option LabelExpression) (props : Properties)
    (edge : TopologyEdge) : TopologyEdge :=
  { edge with
    types := addMissing edge.types types
    labelExpression := edge.labelExpression <|> labelExpression
    properties := extend edge.properties props
    data := extend edge.data props }

def updateFirst (id : String) (f : TopologyEdge → TopologyEdge) : List TopologyEdge → Option (List TopologyEdge)
  | [] => none
  | e :: es => if e.id = id then some (f e :: es) else (e :: ·) <$> updateFirst id f es

def extractEdge (currentId : String) (edgeHandle : NodeHandle) (st : Extraction) : String × Extraction :=
  match arena.nodes[edgeHandle]? with
  | some (.edgePattern var labelExpression direction minHops maxHops predicates targetNode) =>
    let (nextId, st) := extractNodeFromHandle unicode arena targetNode st
    let counter := st.edgeCounter + 1
    let id := var.getD s!"rel_{counter}"
    let types := (labelExpression.map LabelExpression.collectLabels).getD []
    let props := extractPredicatesToProps arena predicates
    let (source, target) :=
      match direction with
      | .outgoing | .undirected => (currentId, nextId)
      | .incoming => (nextId, currentId)
    let edges :=
      (updateFirst id (mergeEdge types labelExpression props) st.edges).getD (st.edges ++
        [⟨id, source, target, types.head?.getD "CONNECTED_TO", types, direction, "#64748b", minHops, maxHops, props,
          withVariable var props, labelExpression⟩])
    (nextId, { st with edges, edgeCounter := counter })
  | _ => (currentId, st)

def extractEdges (currentId : String) : List NodeHandle → Extraction → Extraction
  | [], st => st
  | h :: hs, st =>
    let (nextId, st) := extractEdge unicode arena currentId h st
    extractEdges nextId hs st

def extractPath (path : NodeHandle) (st : Extraction) : Extraction :=
  match arena.nodes[path]? with
  | some (.nodePattern ..) => (extractNodeFromHandle unicode arena path st).2
  | some (.pathChain _ _ startNode edges) =>
    let (currentId, st) := extractNodeFromHandle unicode arena startNode st
    extractEdges unicode arena currentId edges st
  | _ => st

def extractEqPredicate (left right : NodeHandle) (nodes : AList fun _ : String => TopologyNode) :
    AList fun _ : String => TopologyNode :=
  let found :=
    match arena.nodes[left]?, arena.nodes[right]? with
    | some (.propertyAccess target property), some (.literal lit) => some (target, property, lit)
    | some (.literal lit), some (.propertyAccess target property) => some (target, property, lit)
    | _, _ => none
  match found with
  | some (target, property, lit) =>
    match arena.nodes[target]? with
    | some (.identifier var) =>
      match nodes.lookup var with
      | some node =>
        nodes.insert var { node with
          properties := node.properties.insert property lit, data := node.data.insert property lit }
      | none => nodes
    | _ => nodes
  | none => nodes

def extractWherePredicatesToNodes : ℕ → NodeHandle → (AList fun _ : String => TopologyNode) →
    Option (AList fun _ : String => TopologyNode)
  | 0, _, _ => none
  | fuel + 1, handle, nodes =>
    match arena.nodes[handle]? with
    | some (.whereClause rootPredicate) => extractWherePredicatesToNodes fuel rootPredicate nodes
    | some (.binaryExpression left .and right) => do
      extractWherePredicatesToNodes fuel right (← extractWherePredicatesToNodes fuel left nodes)
    | some (.binaryExpression left .eq right) => some (extractEqPredicate arena left right nodes)
    | _ => some nodes

def fromArena (fuel : ℕ) (root : Option NodeHandle) : Option GraphTopology := do
  let found ← findPaths arena fuel root
  let st := found.paths.eraseDups.foldl (fun st h => extractPath unicode arena h st) .start
  let nodesMap ← found.wheres.foldlM (fun nodes h => extractWherePredicatesToNodes arena fuel h nodes) st.nodesMap
  some ⟨1, st.nodesOrder.filterMap fun id => nodesMap.lookup id, st.edges⟩

end

end GraphTopology

end Voyager
