import Voyager.Lib.Tracking
import Voyager.Schema.Basic

namespace Voyager.Ddl

open List Option

structure VertexTable where
  name : String
  key : Option String
  label : String
  properties : List String
deriving DecidableEq

structure Reference where
  column : String
  table : String
  refColumn : String
deriving DecidableEq

structure EdgeTable where
  name : String
  source : Reference
  destination : Reference
  label : String
  properties : List String
deriving DecidableEq

structure PropertyGraph where
  vertices : List VertexTable
  edges : List EdgeTable
deriving DecidableEq

def propertiesClause (names : List String) : String :=
  if names.isEmpty then "" else " PROPERTIES (" ++ ", ".intercalate names ++ ")"

def VertexTable.text (v : VertexTable) : String :=
  match v.key with
  | some pk => s!"    {v.name} KEY ({pk}) LABEL {v.label}{propertiesClause v.properties}"
  | none => s!"    {v.name} LABEL {v.label}{propertiesClause v.properties}"

def EdgeTable.text (e : EdgeTable) : String :=
  s!"    {e.name}\n      SOURCE KEY ({e.source.column}) REFERENCES {e.source.table} ({e.source.refColumn})\n      DESTINATION KEY ({e.destination.column}) REFERENCES {e.destination.table} ({e.destination.refColumn})\n      LABEL {e.label}{propertiesClause e.properties}"

def PropertyGraph.text (graphName : String) (g : PropertyGraph) : String :=
  let vertices := ",\n".intercalate (g.vertices.map VertexTable.text)
  let edges := ",\n".intercalate (g.edges.map EdgeTable.text)
  s!"CREATE PROPERTY GRAPH {graphName}\n" ++
    (if vertices.isEmpty then "" else s!"  VERTEX TABLES (\n{vertices}\n  )\n") ++
    (if edges.isEmpty then "" else s!"  EDGE TABLES (\n{edges}\n  )") ++ ";"

def vertexTable (node : NodeSchema) : VertexTable :=
  ⟨toAsciiLowercase node.name, node.primaryKey, node.primaryLabel, node.fields.keys⟩

def missingEndpoint (rel : RelationshipSchema) (side : String) : DdlError :=
  .schemaError s!"Relationship '{rel.name}' is missing {side}_labels. SQL:2023 PGQ EDGE TABLES require explicit vertex {side} endpoints."

def firstLabel (labels : List String) : Option String := labels.head?.filter (· ≠ "")

section

variable (nodes : List NodeSchema)

def findNode (label : String) : Option NodeSchema := nodes.find? fun n => n.labels.contains label || n.name == label

def referenceTo (label : String) : Reference :=
  let table := toAsciiLowercase label
  let key := table ++ "_id"
  ⟨key, table, ((findNode nodes label).bind NodeSchema.primaryKey).getD key⟩

def edgeTable (rel : RelationshipSchema) : Except DdlError EdgeTable :=
  match firstLabel rel.sourceLabels, firstLabel rel.targetLabels with
  | none, _ => .error (missingEndpoint rel "source")
  | some _, none => .error (missingEndpoint rel "target")
  | some source, some target =>
    .ok ⟨toAsciiLowercase rel.name, referenceTo nodes source, referenceTo nodes target, rel.typeName, rel.fields.keys⟩

def propertyGraph (relationships : List RelationshipSchema) : Except DdlError PropertyGraph := do
  let edges ← relationships.mapM (edgeTable nodes)
  .ok ⟨nodes.map vertexTable, edges⟩

def emitPgqPropertyGraphDdl (graphName : String) (relationships : List RelationshipSchema) : Except DdlError String :=
  (propertyGraph nodes relationships).map (PropertyGraph.text graphName)

end

def PropertyGraph.Resolves (g : PropertyGraph) (r : Reference) : Prop :=
  (∃ v ∈ g.vertices, v.name = r.table) ∧ ∀ v ∈ g.vertices, v.name = r.table → v.key = some r.refColumn

def PropertyGraph.Sound (g : PropertyGraph) : Prop :=
  ∀ e ∈ g.edges, g.Resolves e.source ∧ g.Resolves e.destination ∧ e.source.column ≠ e.destination.column

/-- The label has a key, and it is the key of every table that has the name of the label. -/
def Keyed (nodes : List NodeSchema) (label : String) : Prop :=
  ∃ pk, (findNode nodes label).bind NodeSchema.primaryKey = some pk ∧
    (∃ node ∈ nodes, toAsciiLowercase node.name = toAsciiLowercase label) ∧
    ∀ node ∈ nodes, toAsciiLowercase node.name = toAsciiLowercase label → node.primaryKey = some pk

def EdgeSound (nodes : List NodeSchema) (g : PropertyGraph) (rel : RelationshipSchema) (e : EdgeTable) : Prop :=
  ∃ source target, rel.sourceLabels.head? = some source ∧ rel.targetLabels.head? = some target ∧
    e.source.column = toAsciiLowercase source ++ "_id" ∧ e.destination.column = toAsciiLowercase target ++ "_id" ∧
    (e.source.column = e.destination.column ↔ toAsciiLowercase source = toAsciiLowercase target) ∧
    (Keyed nodes source → g.Resolves e.source) ∧ (Keyed nodes target → g.Resolves e.destination)

section

variable {nodes : List NodeSchema}

lemma edgeTable_ok {rel : RelationshipSchema} {e : EdgeTable} (h : edgeTable nodes rel = .ok e) :
    ∃ source target, rel.sourceLabels.head? = some source ∧ rel.targetLabels.head? = some target ∧
      e.source = referenceTo nodes source ∧ e.destination = referenceTo nodes target := by
  unfold edgeTable at h
  split at h
  · cases h
  · cases h
  · rename_i source target hsource htarget
    obtain rfl := Except.ok.inj h
    exact ⟨source, target, (filter_eq_some_iff.mp hsource).1, (filter_eq_some_iff.mp htarget).1, rfl, rfl⟩

lemma resolves_referenceTo {label : String} (hlabel : Keyed nodes label) (edges : List EdgeTable) :
    PropertyGraph.Resolves ⟨nodes.map vertexTable, edges⟩ (referenceTo nodes label) := by
  obtain ⟨pk, hpk, ⟨node, hnode, hname⟩, hkeys⟩ := hlabel
  have href : (referenceTo nodes label).refColumn = pk := by simp [referenceTo, hpk]
  refine ⟨⟨vertexTable node, mem_map_of_mem hnode, hname⟩, fun v hv htable => ?_⟩
  obtain ⟨other, hother, rfl⟩ := mem_map.mp hv
  rw [href]
  exact hkeys other hother htable

end

def personNode : NodeSchema := ⟨"Person", ["Person"], .empty, some "id", []⟩

def companyNode : NodeSchema := ⟨"Company", ["Company"], .empty, some "code", []⟩

def worksAt : RelationshipSchema := ⟨"WorksAt", "WORKS_AT", ["Person"], ["Company"], .empty, true, []⟩

def follows : RelationshipSchema := ⟨"Follows", "FOLLOWS", ["Person"], ["Person"], .empty, true, []⟩

end Voyager.Ddl
