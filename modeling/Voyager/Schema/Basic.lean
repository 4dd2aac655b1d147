import Mathlib.Data.String.Basic
import Mathlib.Tactic

/-! Schemas of nodes and relationships and the registry that holds them. -/

namespace Voyager

def toAsciiLowercase (s : String) : String := String.ofList (s.toList.map Char.toLower)

def toAsciiUppercase (s : String) : String := String.ofList (s.toList.map Char.toUpper)

def eqIgnoreAsciiCase (s t : String) : Bool := toAsciiLowercase s == toAsciiLowercase t

inductive FieldType
  | string | int64 | float64 | boolean | dateTime | date | duration
  | list (item : FieldType)
  | map | any
  | custom (name : String)
deriving DecidableEq

inductive IndexType
  | bTree | text | point | vector
deriving DecidableEq

inductive DdlDialect
  | cypher | sql | falkorDb | age | memgraph | duckDb
deriving DecidableEq

def defaultVectorDimensions : ℕ := 1536

def defaultMemgraphVectorCapacity : ℕ := 10000

inductive VectorSimilarity
  | cosine | euclidean | dot
deriving DecidableEq

namespace VectorSimilarity

def metricFor : VectorSimilarity → DdlDialect → String
  | cosine, .cypher => "cosine"
  | euclidean, .cypher => "euclidean"
  | dot, .cypher => "cosine"
  | cosine, .falkorDb => "cosine"
  | euclidean, .falkorDb => "euclidean"
  | dot, .falkorDb => "ip"
  | cosine, .memgraph => "cos"
  | euclidean, .memgraph => "l2"
  | dot, .memgraph => "ip"
  | cosine, .duckDb => "cosine"
  | euclidean, .duckDb => "l2sq"
  | dot, .duckDb => "ip"
  | cosine, .sql | cosine, .age => "vector_cosine_ops"
  | euclidean, .sql | euclidean, .age => "vector_l2_ops"
  | dot, .sql | dot, .age => "vector_ip_ops"

end VectorSimilarity

structure VectorIndexConfig where
  dimensions : ℕ
  similarity : VectorSimilarity
  indexName : Option String

structure FullTextIndexConfig where
  name : String
  properties : List String
  analyzer : Option String

structure FieldDescriptor where
  name : String
  fieldType : FieldType
  nullable : Bool
  primaryKey : Bool
  unique : Bool
  indexed : Bool
  indexType : Option IndexType
  vectorConfig : Option VectorIndexConfig

variable (field : FieldDescriptor)

namespace FieldDescriptor

def new (name : String) (fieldType : FieldType) : FieldDescriptor where
  name := name
  fieldType := fieldType
  nullable := true
  primaryKey := false
  unique := false
  indexed := false
  indexType := none
  vectorConfig := none

def isVector : Bool := field.indexType == some .vector

def dimensions : ℕ :=
  match field.vectorConfig with
  | some vc => vc.dimensions
  | none => defaultVectorDimensions

def metric (dialect : DdlDialect) : String :=
  match field.vectorConfig with
  | some vc => vc.similarity.metricFor dialect
  | none => VectorSimilarity.cosine.metricFor dialect

def customName : Option String := field.vectorConfig.bind VectorIndexConfig.indexName

end FieldDescriptor

structure SortedMap (α : Type) where
  entries : List (String × α)
  sorted : entries.Pairwise fun a b => a.1 < b.1

namespace SortedMap

variable {α : Type}

def empty : SortedMap α := ⟨[], .nil⟩

def single (key : String) (value : α) : SortedMap α := ⟨[(key, value)], List.pairwise_singleton _ _⟩

def keys (m : SortedMap α) : List String := m.entries.map Prod.fst

def values (m : SortedMap α) : List α := m.entries.map Prod.snd

end SortedMap

structure NodeSchema where
  name : String
  labels : List String
  fields : SortedMap FieldDescriptor
  primaryKey : Option String
  fulltextIndexes : List FullTextIndexConfig

def NodeSchema.primaryLabel (node : NodeSchema) : String := node.labels.head?.getD node.name

structure RelationshipSchema where
  name : String
  typeName : String
  sourceLabels : List String
  targetLabels : List String
  fields : SortedMap FieldDescriptor
  directed : Bool
  fulltextIndexes : List FullTextIndexConfig

structure SchemaRegistry where
  nodes : SortedMap NodeSchema
  relationships : SortedMap RelationshipSchema

namespace SchemaRegistry

variable (names : Option (List String))

def filterNodes (nodes : List NodeSchema) : List NodeSchema :=
  match names with
  | some names =>
    nodes.filter fun n => names.contains n.name || names.any fun m => n.labels.any fun l => eqIgnoreAsciiCase l m
  | none => nodes

def filterRelationships (rels : List RelationshipSchema) : List RelationshipSchema :=
  match names with
  | some names => rels.filter fun r => names.contains r.name || names.any fun m => eqIgnoreAsciiCase r.typeName m
  | none => rels

def filterModels (registry : SchemaRegistry) (names : Option (List String)) :
    List NodeSchema × List RelationshipSchema :=
  (filterNodes names registry.nodes.values, filterRelationships names registry.relationships.values)

end SchemaRegistry

def canonicalVectorIndexName (label prop : String) (dialect : DdlDialect) : String :=
  let lbl := toAsciiLowercase label
  let prp := toAsciiLowercase prop
  match dialect with
  | .cypher | .memgraph | .falkorDb => s!"index_{lbl}_{prp}"
  | .duckDb | .sql | .age => s!"idx_{lbl}_{prp}_vector"

def canonicalFulltextIndexName (labelOrType : String) (properties : List String) (dialect : DdlDialect) : String :=
  let lbl := toAsciiLowercase labelOrType
  let props := "_".intercalate (properties.map toAsciiLowercase)
  let suffix := if props.isEmpty then "fulltext" else props
  match dialect with
  | .cypher | .memgraph | .falkorDb => s!"index_{lbl}_{suffix}"
  | .duckDb | .sql | .age => s!"idx_{lbl}_{suffix}_fts"

inductive DdlError
  | unsupportedDialect (dialect feature : String)
  | schemaError (message : String)
deriving DecidableEq

inductive DdlOp
  | createIndex | createConstraint | dropIndex | dropConstraint
deriving DecidableEq

def DdlOp.name : DdlOp → String
  | createIndex => "CREATE INDEX"
  | createConstraint => "CREATE CONSTRAINT"
  | dropIndex => "DROP INDEX"
  | dropConstraint => "DROP CONSTRAINT"

def ageUnsupported (op : DdlOp) : DdlError :=
  .unsupportedDialect "Apache AGE" s!"Cypher '{op.name}' queries. Indexes and constraints in Apache AGE must be defined directly on the underlying PostgreSQL relational tables (e.g. CREATE INDEX ON \x7bgraph\x7d.\"Label\" USING gin (properties))."

def falkorUnsupported : DdlError :=
  .unsupportedDialect "FalkorDB" "openCypher constraint queries in GRAPH.QUERY. Constraints in FalkorDB must be managed via native Redis commands ('GRAPH.CONSTRAINT CREATE/DROP <graph_name> UNIQUE NODE <label> PROPERTIES 1 <prop>')."

def ensureDdlSupported (dialect : String) (op : DdlOp) : Except DdlError DdlDialect :=
  let norm := toAsciiLowercase dialect
  if norm = "memgraph" then .ok .memgraph
  else if norm = "duckdb" ∨ norm = "duckpgq" then .ok .duckDb
  else if norm = "age" ∨ norm = "apache_age" then
    if op = .createIndex ∨ op = .dropIndex then .ok .age else .error (ageUnsupported op)
  else if norm = "falkordb" ∨ norm = "falkor" then
    if op = .createConstraint ∨ op = .dropConstraint then .error falkorUnsupported else .ok .falkorDb
  else if norm ∈ ["sql", "postgres", "postgresql", "sql_pgq", "pgq"] then .ok .sql
  else .ok .cypher

def isPureIndexField : Bool := field.indexed && !field.unique && !field.primaryKey

def escapeSqlIdent (ident : String) : String :=
  "\"" ++ String.ofList (ident.toList.flatMap fun c => if c = '"' then ['"', '"'] else [c]) ++ "\""

end Voyager
