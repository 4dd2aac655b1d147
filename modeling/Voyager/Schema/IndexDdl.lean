import Voyager.Schema.Basic

/-! The statements that create and drop indexes. A statement is kept with its text and with what it does. -/

namespace Voyager.Ddl

inductive Entity
  | node | relationship
deriving DecidableEq

inductive IndexKind
  | range | text | point | vector | fulltext
deriving DecidableEq

structure Index where
  entity : Entity
  owner : String
  properties : List String
  kind : IndexKind
deriving DecidableEq

inductive Handle
  | named (name : String)
  | located (kind : IndexKind) (owner property : String)
  | fulltextOf (owner : String)
deriving DecidableEq

structure CreateIndex where
  text : String
  handle : Handle
  index : Index
deriving DecidableEq

structure DropIndex where
  text : String
  handle : Handle
deriving DecidableEq

def cypherConstraintName (label prop kind : String) : String :=
  s!"constraint_{toAsciiLowercase label}_{toAsciiLowercase prop}_{kind}"

def cypherIndexName (label prop : String) : String := s!"index_{toAsciiLowercase label}_{toAsciiLowercase prop}"

def cypherRelIndexName (relType prop : String) : String :=
  s!"index_rel_{toAsciiLowercase relType}_{toAsciiLowercase prop}"

def fulltextName (owner : String) (ft : FullTextIndexConfig) (dialect : DdlDialect) : String :=
  if ft.name.isEmpty then canonicalFulltextIndexName owner ft.properties dialect else ft.name

def commaJoin (texts : List String) : String := ", ".intercalate texts

def searchText (columns : List String) : String := " || ' ' || ".intercalate columns

section

variable (dialect : DdlDialect) (label : String) (field : FieldDescriptor)

def vectorName : String :=
  field.customName.getD (canonicalVectorIndexName label field.name dialect)

def sqlIndexName (table : String) (field : FieldDescriptor) : String := s!"idx_{table}_{field.name}"

def cypherFieldIndexName : String :=
  field.customName.getD
    (if field.isVector then canonicalVectorIndexName label field.name dialect else cypherIndexName label field.name)

def cypherKind : Option IndexType → IndexKind
  | some .text => .text
  | some .point => .point
  | some .vector => .vector
  | _ => .range

def cypherFieldIndex : CreateIndex :=
  let name := cypherFieldIndexName dialect label field
  let prop := field.name
  let text :=
    match cypherKind field.indexType with
    | .text => s!"CREATE TEXT INDEX {name} IF NOT EXISTS FOR (n:{label}) ON (n.{prop})"
    | .point => s!"CREATE POINT INDEX {name} IF NOT EXISTS FOR (n:{label}) ON (n.{prop})"
    | .vector => s!"CREATE VECTOR INDEX {name} IF NOT EXISTS FOR (n:{label}) ON (n.{prop}) OPTIONS \x7bindexConfig: \x7b`vector.dimensions`: {field.dimensions}, `vector.similarity_function`: '{field.metric dialect}'\x7d\x7d"
    | _ => s!"CREATE INDEX {name} IF NOT EXISTS FOR (n:{label}) ON (n.{prop})"
  ⟨text, .named name, ⟨.node, label, [prop], cypherKind field.indexType⟩⟩

variable (entity : Entity)

def cypherFulltextIndex (pattern var owner : String) (ft : FullTextIndexConfig) : CreateIndex :=
  let name := fulltextName owner ft dialect
  let props := commaJoin (ft.properties.map fun p => var ++ "." ++ p)
  let options :=
    match ft.analyzer with
    | some analyzer => s!" OPTIONS \x7bindexConfig: \x7b`fulltext.analyzer`: '{analyzer}'\x7d\x7d"
    | none => ""
  ⟨s!"CREATE FULLTEXT INDEX {name} IF NOT EXISTS FOR {pattern} ON EACH [{props}]{options}", .named name,
    ⟨entity, owner, ft.properties, .fulltext⟩⟩

def sqlFulltextIndex (relation owner : String) (column : String → String) (ft : FullTextIndexConfig) : CreateIndex :=
  let name := fulltextName owner ft dialect
  let analyzer := ft.analyzer.getD "english"
  let expr := searchText (ft.properties.map column)
  ⟨s!"CREATE INDEX IF NOT EXISTS {name} ON {relation} USING gin (to_tsvector('{analyzer}', {expr}));", .named name,
    ⟨entity, owner, ft.properties, .fulltext⟩⟩

def memgraphFulltextIndex (command owner : String) (ft : FullTextIndexConfig) : CreateIndex :=
  let name := fulltextName owner ft dialect
  ⟨s!"{command} {name} ON :{owner}({commaJoin ft.properties});", .named name,
    ⟨entity, owner, ft.properties, .fulltext⟩⟩

def quotedNames (names : List String) : String := commaJoin (names.map fun p => "'" ++ p ++ "'")

def duckDbFulltextIndex (owner pk : String) (ft : FullTextIndexConfig) : CreateIndex :=
  let table := toAsciiLowercase owner
  ⟨s!"PRAGMA create_fts_index('{table}', '{pk}', {quotedNames ft.properties});", .fulltextOf table,
    ⟨entity, owner, ft.properties, .fulltext⟩⟩

def sqlFieldIndex (owner : String) (field : FieldDescriptor) : CreateIndex :=
  let table := toAsciiLowercase owner
  let name := sqlIndexName table field
  let relation := escapeSqlIdent table
  ⟨s!"CREATE INDEX IF NOT EXISTS {name} ON {relation} ({escapeSqlIdent field.name});", .named name,
    ⟨entity, owner, [field.name], .range⟩⟩

def memgraphFieldIndex : CreateIndex :=
  let name := vectorName dialect label field
  let prop := field.name
  if field.isVector then
    ⟨s!"CREATE VECTOR INDEX {name} ON :{label}({prop}) WITH CONFIG \x7b\"dimension\": {field.dimensions}, \"capacity\": {defaultMemgraphVectorCapacity}, \"metric\": \"{field.metric dialect}\"\x7d;",
      .named name, ⟨.node, label, [prop], .vector⟩⟩
  else ⟨s!"CREATE INDEX ON :{label}({prop});", .located .range label prop, ⟨.node, label, [prop], .range⟩⟩

def falkorFieldIndex : CreateIndex :=
  let prop := field.name
  if field.isVector then
    ⟨s!"CREATE VECTOR INDEX FOR (n:{label}) ON (n.{prop}) OPTIONS \x7bdimension: {field.dimensions}, similarityFunction: '{field.metric dialect}'\x7d",
      .located .vector label prop, ⟨.node, label, [prop], .vector⟩⟩
  else ⟨s!"CREATE INDEX FOR (n:{label}) ON (n.{prop})", .located .range label prop, ⟨.node, label, [prop], .range⟩⟩

def sqlVectorIndex (relation method : String) (field : FieldDescriptor) : CreateIndex :=
  let name := vectorName dialect label field
  ⟨s!"CREATE INDEX IF NOT EXISTS {name} ON {relation} USING {method};", .named name,
    ⟨.node, label, [field.name], .vector⟩⟩

def duckDbVectorIndex : CreateIndex :=
  sqlVectorIndex dialect label (escapeSqlIdent (toAsciiLowercase label))
    s!"HNSW ({escapeSqlIdent field.name}) WITH (metric = '{field.metric dialect}')" field

def ageVectorIndex : CreateIndex :=
  sqlVectorIndex dialect label s!"ag_catalog.\"{label}\"" s!"hnsw ({field.name} {field.metric dialect})" field

def postgresVectorIndex : CreateIndex :=
  sqlVectorIndex dialect label (escapeSqlIdent (toAsciiLowercase label))
    s!"hnsw ({escapeSqlIdent field.name} {field.metric dialect})" field

def nodeFieldIndex : List CreateIndex :=
  match dialect with
  | .memgraph => [memgraphFieldIndex dialect label field]
  | .duckDb => if field.isVector then [duckDbVectorIndex dialect label field] else [sqlFieldIndex .node label field]
  | .falkorDb => [falkorFieldIndex dialect label field]
  | .age => if field.isVector then [ageVectorIndex dialect label field] else []
  | .sql => if field.isVector then [postgresVectorIndex dialect label field] else [sqlFieldIndex .node label field]
  | .cypher => [cypherFieldIndex dialect label field]

def nodeFulltextIndex (node : NodeSchema) (ft : FullTextIndexConfig) : CreateIndex :=
  match dialect with
  | .memgraph => memgraphFulltextIndex dialect .node "CREATE TEXT INDEX" label ft
  | .duckDb => duckDbFulltextIndex .node label (node.primaryKey.getD "id") ft
  | .falkorDb =>
    ⟨s!"CALL db.idx.fulltext.createNodeIndex('{label}', {quotedNames ft.properties})", .fulltextOf label,
      ⟨.node, label, ft.properties, .fulltext⟩⟩
  | .age =>
    sqlFulltextIndex dialect .node s!"ag_catalog.\"{label}\"" label (fun p => s!"(properties->>'{p}')") ft
  | .sql => sqlFulltextIndex dialect .node (escapeSqlIdent (toAsciiLowercase label)) label escapeSqlIdent ft
  | .cypher => cypherFulltextIndex dialect .node s!"(n:{label})" "n" label ft

end

def ageHasNoIndexes (node : NodeSchema) : Bool :=
  !(node.fields.values.any FieldDescriptor.isVector) && node.fulltextIndexes.isEmpty

def emitNodeIndexDdl (node : NodeSchema) (dialect : String) : Except DdlError (List CreateIndex) := do
  let ddlDialect ← ensureDdlSupported dialect .createIndex
  let label := node.primaryLabel
  if ddlDialect = .age ∧ ageHasNoIndexes node then .error (ageUnsupported .createIndex)
  else
    .ok ((node.fields.values.filter isPureIndexField).flatMap (nodeFieldIndex ddlDialect label) ++
      node.fulltextIndexes.map (nodeFulltextIndex ddlDialect label node))

section

variable (dialect : DdlDialect) (typeName : String)

def relFieldIndex (field : FieldDescriptor) : CreateIndex :=
  let prop := field.name
  let range : Index := ⟨.relationship, typeName, [prop], .range⟩
  match dialect with
  | .memgraph => ⟨s!"CREATE EDGE INDEX ON :{typeName}({prop});", .located .range typeName prop, range⟩
  | .falkorDb | .age =>
    ⟨s!"CREATE INDEX FOR ()-[r:{typeName}]-() ON (r.{prop})", .located .range typeName prop, range⟩
  | .duckDb | .sql => sqlFieldIndex .relationship typeName field
  | .cypher =>
    let name := cypherRelIndexName typeName prop
    ⟨s!"CREATE INDEX {name} IF NOT EXISTS FOR ()-[r:{typeName}]-() ON (r.{prop})", .named name, range⟩

def relFulltextIndex (ft : FullTextIndexConfig) : CreateIndex :=
  match dialect with
  | .memgraph => memgraphFulltextIndex dialect .relationship "CREATE TEXT EDGE INDEX" typeName ft
  | .duckDb => duckDbFulltextIndex .relationship typeName "id" ft
  | .sql | .falkorDb | .age =>
    sqlFulltextIndex dialect .relationship (escapeSqlIdent (toAsciiLowercase typeName)) typeName escapeSqlIdent ft
  | .cypher => cypherFulltextIndex dialect .relationship s!"()-[r:{typeName}]-()" "r" typeName ft

end

def ageRelUnsupported : DdlError :=
  .unsupportedDialect "Apache AGE" "Cypher 'CREATE INDEX' queries on relationships. Indexes in Apache AGE must be defined directly on the underlying PostgreSQL relational tables."

def falkorRelUnsupported : DdlError :=
  .unsupportedDialect "FalkorDB" "Full-text index creation on relationships. FalkorDB only supports db.idx.fulltext.createNodeIndex for nodes."

def emitRelIndexDdl (rel : RelationshipSchema) (dialect : String) : Except DdlError (List CreateIndex) := do
  let ddlDialect ← ensureDdlSupported dialect .createIndex
  if ddlDialect = .age then .error ageRelUnsupported
  else if ddlDialect = .falkorDb ∧ !rel.fulltextIndexes.isEmpty then .error falkorRelUnsupported
  else
    .ok ((rel.fields.values.filter isPureIndexField).map (relFieldIndex ddlDialect rel.typeName) ++
      rel.fulltextIndexes.map (relFulltextIndex ddlDialect rel.typeName))

def generateIndexDdl (registry : SchemaRegistry) (dialect : String) (modelNames : Option (List String)) :
    Except DdlError (List CreateIndex) := do
  let (nodes, rels) := registry.filterModels modelNames
  let nodeStmts ← nodes.mapM fun node => emitNodeIndexDdl node dialect
  let relStmts ← rels.mapM fun rel => emitRelIndexDdl rel dialect
  .ok (nodeStmts.flatten ++ relStmts.flatten)

section

variable (dialect : DdlDialect) (label : String) (field : FieldDescriptor)

def dropMemgraphFieldIndex : DropIndex :=
  let name := vectorName dialect label field
  if field.isVector then ⟨s!"DROP VECTOR INDEX {name};", .named name⟩
  else ⟨s!"DROP INDEX ON :{label}({field.name});", .located .range label field.name⟩

def dropFalkorFieldIndex : DropIndex :=
  if field.isVector then ⟨s!"DROP VECTOR INDEX FOR (n:{label}) ON (n.{field.name})", .located .vector label field.name⟩
  else ⟨s!"DROP INDEX FOR (n:{label}) ON (n.{field.name})", .located .range label field.name⟩

def dropSqlIndex (name : String) : DropIndex := ⟨s!"DROP INDEX IF EXISTS {name};", .named name⟩

def dropCypherIndex (name : String) : DropIndex := ⟨s!"DROP INDEX {name} IF EXISTS", .named name⟩

def sqlDropName : String :=
  field.customName.getD
    (if field.isVector then canonicalVectorIndexName label field.name dialect
      else sqlIndexName (toAsciiLowercase label) field)

def dropNodeFieldIndex : List DropIndex :=
  match dialect with
  | .memgraph => [dropMemgraphFieldIndex dialect label field]
  | .duckDb | .sql => [dropSqlIndex (sqlDropName dialect label field)]
  | .falkorDb => [dropFalkorFieldIndex label field]
  | .age => if field.isVector then [dropSqlIndex (vectorName dialect label field)] else []
  | .cypher => [dropCypherIndex (cypherFieldIndexName dialect label field)]

def dropNodeFulltextIndex (ft : FullTextIndexConfig) : DropIndex :=
  let name := fulltextName label ft dialect
  let table := toAsciiLowercase label
  match dialect with
  | .memgraph => ⟨s!"DROP TEXT INDEX {name};", .named name⟩
  | .duckDb => ⟨s!"PRAGMA drop_fts_index('{table}');", .fulltextOf table⟩
  | .falkorDb => ⟨s!"CALL db.idx.fulltext.drop('{label}')", .fulltextOf label⟩
  | .age | .sql => dropSqlIndex name
  | .cypher => dropCypherIndex name

end

def ageDropUnsupported : DdlError :=
  .unsupportedDialect "Apache AGE" "Cypher 'DROP INDEX' queries. Indexes and constraints in Apache AGE must be defined directly on the underlying PostgreSQL relational tables."

def emitNodeDropIndexDdl (node : NodeSchema) (dialect : String) : Except DdlError (List DropIndex) := do
  let ddlDialect ← ensureDdlSupported dialect .dropIndex
  let label := node.primaryLabel
  if ddlDialect = .age ∧ ageHasNoIndexes node then .error ageDropUnsupported
  else
    .ok ((node.fields.values.filter isPureIndexField).flatMap (dropNodeFieldIndex ddlDialect label) ++
      node.fulltextIndexes.map (dropNodeFulltextIndex ddlDialect label))

end Voyager.Ddl
