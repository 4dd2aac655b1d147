import Voyager.Schema.IndexDdl

/-! What the create statements of a node make is what its drop statements take away. -/

namespace Voyager.Ddl

open List

def customTypeToNeo4j (name : String) : String :=
  let upper := toAsciiUppercase name
  if upper ∈ ["STRING", "STR", "TEXT", "VARCHAR"] then "STRING"
  else if upper ∈ ["INTEGER", "INT", "INT64", "BIGINT"] then "INTEGER"
  else if upper ∈ ["FLOAT", "FLOAT64", "DOUBLE"] then "FLOAT"
  else if upper ∈ ["BOOLEAN", "BOOL"] then "BOOLEAN"
  else if upper ∈ ["DATETIME", "TIMESTAMP"] then "DATETIME"
  else if upper = "DATE" then "DATE"
  else if upper ∈ ["DURATION", "INTERVAL"] then "DURATION"
  else if upper ∈ ["LIST", "ARRAY"] then "LIST"
  else if upper ∈ ["MAP", "DICT"] then "MAP"
  else "ANY"

def fieldTypeToNeo4j : FieldType → String
  | .string => "STRING"
  | .int64 => "INTEGER"
  | .float64 => "FLOAT"
  | .boolean => "BOOLEAN"
  | .dateTime => "DATETIME"
  | .date => "DATE"
  | .duration => "DURATION"
  | .list _ => "LIST"
  | .map => "MAP"
  | .any => "ANY"
  | .custom name => customTypeToNeo4j name

inductive SchemaObject
  | constraint (name : String)
  | index (name : String)
deriving DecidableEq

structure SchemaStatement where
  text : String
  object : SchemaObject
deriving DecidableEq

def CreateIndex.statement (name : String) (create : CreateIndex) : SchemaStatement := ⟨create.text, .index name⟩

def createConstraint (label prop kind requirement : String) : SchemaStatement :=
  let name := cypherConstraintName label prop kind
  ⟨s!"CREATE CONSTRAINT {name} IF NOT EXISTS FOR (n:{label}) REQUIRE n.{prop} {requirement}", .constraint name⟩

def dropConstraint (label prop kind : String) : SchemaStatement :=
  let name := cypherConstraintName label prop kind
  ⟨s!"DROP CONSTRAINT {name} IF EXISTS", .constraint name⟩

def dropIndex (name : String) : SchemaStatement := ⟨s!"DROP INDEX {name} IF EXISTS", .index name⟩

section

variable (label : String) (includeTypeConstraints : Bool) (field : FieldDescriptor)

def cypherFieldDdl : List SchemaStatement :=
  (if !field.nullable then [createConstraint label field.name "not_null" "IS NOT NULL"] else []) ++
  (if field.unique || field.primaryKey then [createConstraint label field.name "unique" "IS UNIQUE"] else []) ++
  (if field.indexed && !field.unique && !field.primaryKey then
    [(cypherFieldIndex .cypher label field).statement (cypherFieldIndexName .cypher label field)] else []) ++
  if includeTypeConstraints then
    [createConstraint label field.name "type" (":: " ++ fieldTypeToNeo4j field.fieldType)] else []

def cypherDropFieldDdl : List SchemaStatement :=
  (if !field.nullable then [dropConstraint label field.name "not_null"] else []) ++
  (if field.unique || field.primaryKey then [dropConstraint label field.name "unique"] else []) ++
  (if field.indexed then [dropIndex (cypherFieldIndexName .cypher label field)] else []) ++
  if includeTypeConstraints then [dropConstraint label field.name "type"] else []

end

def emitCypherNodeDdl (node : NodeSchema) (includeTypeConstraints : Bool) : List SchemaStatement :=
  let label := node.primaryLabel
  node.fields.values.flatMap (cypherFieldDdl label includeTypeConstraints) ++
    node.fulltextIndexes.map fun ft =>
      (cypherFulltextIndex .cypher .node s!"(n:{label})" "n" label ft).statement (fulltextName label ft .cypher)

def emitCypherDropNodeDdl (node : NodeSchema) (includeTypeConstraints : Bool) : List SchemaStatement :=
  let label := node.primaryLabel
  node.fields.values.flatMap (cypherDropFieldDdl label includeTypeConstraints) ++
    node.fulltextIndexes.map fun ft => dropIndex (fulltextName label ft .cypher)

lemma ensureDdlSupported_drop (dialect : String) :
    ensureDdlSupported dialect .dropIndex = ensureDdlSupported dialect .createIndex := by
  simp [ensureDdlSupported]

section

variable (dialect : DdlDialect) (node : NodeSchema)

/-- The relational dialects drop an index under the name of a vector index, which they create for vectors only. -/
def StrayName (field : FieldDescriptor) : Prop :=
  (dialect = .sql ∨ dialect = .duckDb) ∧ field.isVector = false ∧ field.customName.isSome = true

def createdName (field : FieldDescriptor) : String :=
  match dialect with
  | .cypher => cypherFieldIndexName .cypher node.primaryLabel field
  | _ =>
    if field.isVector then vectorName dialect node.primaryLabel field
    else sqlIndexName (toAsciiLowercase node.primaryLabel) field

/-- The name is used for an indexed field or for a full-text index; DuckDB has no names for the latter. -/
def Uses (nameOf : FieldDescriptor → String) (name : String) : Prop :=
  (∃ field ∈ node.fields.values, isPureIndexField field = true ∧ nameOf field = name) ∨
    dialect ≠ .duckDb ∧ ∃ ft ∈ node.fulltextIndexes, fulltextName node.primaryLabel ft dialect = name

def StrayShared : Prop :=
  ∀ field ∈ node.fields.values, isPureIndexField field = true → StrayName dialect field →
    Uses dialect node (createdName dialect node) (sqlDropName dialect node.primaryLabel field) ∧
      Uses dialect node (sqlDropName dialect node.primaryLabel) (createdName dialect node field)

def KeyIndexShared : Prop :=
  ∀ field ∈ node.fields.values, field.indexed = true → (field.unique || field.primaryKey) = true →
    Uses .cypher node (createdName .cypher node) (createdName .cypher node field)

end

lemma same_members_iff {α β : Type} {xs : List α} {rest : List β} {c d : α → β} :
    (∀ b, b ∈ xs.map d ++ rest ↔ b ∈ xs.map c ++ rest) ↔
      ∀ x ∈ xs, d x ∈ xs.map c ++ rest ∧ c x ∈ xs.map d ++ rest := by
  have hmem : ∀ f : α → β, ∀ x ∈ xs, f x ∈ xs.map f ++ rest := fun f x hx => mem_append_left _ (mem_map_of_mem hx)
  refine ⟨fun h x hx => ⟨(h _).mp (hmem d x hx), (h _).mpr (hmem c x hx)⟩, fun h b => ⟨fun hb => ?_, fun hb => ?_⟩⟩
  · rcases mem_append.mp hb with hb | hb
    · obtain ⟨x, hx, rfl⟩ := mem_map.mp hb
      exact (h x hx).1
    · exact mem_append_right _ hb
  · rcases mem_append.mp hb with hb | hb
    · obtain ⟨x, hx, rfl⟩ := mem_map.mp hb
      exact (h x hx).2
    · exact mem_append_right _ hb

section

variable {dialect : DdlDialect} {node : NodeSchema}

lemma handle_nodeFieldIndex (hdialect : dialect = .sql ∨ dialect = .duckDb) (field : FieldDescriptor) :
    (nodeFieldIndex dialect node.primaryLabel field).map CreateIndex.handle = [.named (createdName dialect node field)] := by
  rcases hdialect with rfl | rfl
  all_goals
    simp only [nodeFieldIndex, createdName]
    split_ifs <;> rfl

lemma sqlDropName_of_not_stray (hdialect : dialect = .sql ∨ dialect = .duckDb) {field : FieldDescriptor}
    (hstray : ¬ StrayName dialect field) : sqlDropName dialect node.primaryLabel field = createdName dialect node field := by
  have hnone : ¬ field.isVector = true → field.customName = none := fun hvector => by
    rw [← Option.not_isSome_iff_eq_none]
    exact fun hsome => hstray ⟨hdialect, by simpa using hvector, hsome⟩
  rcases hdialect with rfl | rfl
  all_goals
    simp only [createdName, sqlDropName]
    split_ifs with hvector
    · rfl
    · rw [hnone hvector, Option.getD_none]

lemma handle_dropNodeFieldIndex (hdialect : ¬ (dialect = .sql ∨ dialect = .duckDb)) (label : String)
    (field : FieldDescriptor) : (dropNodeFieldIndex dialect label field).map DropIndex.handle =
      (nodeFieldIndex dialect label field).map CreateIndex.handle := by
  cases dialect with
  | cypher => rfl
  | sql | duckDb => simp at hdialect
  | memgraph =>
    simp only [dropNodeFieldIndex, nodeFieldIndex, dropMemgraphFieldIndex, memgraphFieldIndex]
    split_ifs <;> rfl
  | falkorDb =>
    simp only [dropNodeFieldIndex, nodeFieldIndex, dropFalkorFieldIndex, falkorFieldIndex]
    split_ifs <;> rfl
  | age =>
    simp only [dropNodeFieldIndex, nodeFieldIndex]
    split_ifs <;> rfl

lemma handle_dropNodeFulltextIndex (dialect : DdlDialect) (label : String) (node : NodeSchema) (ft : FullTextIndexConfig) :
    (dropNodeFulltextIndex dialect label ft).handle = (nodeFulltextIndex dialect label node ft).handle := by
  cases dialect <;> rfl

lemma named_mem_iff (hdialect : dialect = .sql ∨ dialect = .duckDb) (nameOf : FieldDescriptor → String) (name : String) :
    Handle.named name ∈ (node.fields.values.filter isPureIndexField).map (fun field => .named (nameOf field)) ++
      node.fulltextIndexes.map (fun ft => (nodeFulltextIndex dialect node.primaryLabel node ft).handle) ↔
        Uses dialect node nameOf name := by
  have hfulltext : ∀ ft, (nodeFulltextIndex dialect node.primaryLabel node ft).handle = .named name ↔
      dialect ≠ .duckDb ∧ fulltextName node.primaryLabel ft dialect = name := by
    intro ft
    rcases hdialect with rfl | rfl
    · exact ⟨fun h => ⟨by decide, Handle.named.inj h⟩, fun h => congrArg Handle.named h.2⟩
    · exact iff_of_false nofun fun h => h.1 rfl
  simp only [mem_append, mem_map, mem_filter, hfulltext, Uses, Handle.named.injEq, and_assoc]
  refine or_congr Iff.rfl ⟨?_, ?_⟩
  · rintro ⟨ft, hft, hne, hname⟩
    exact ⟨hne, ft, hft, hname⟩
  · rintro ⟨hne, ft, hft, hname⟩
    exact ⟨ft, hft, hne, hname⟩

lemma handles_drop_iff {text : String} {creates : List CreateIndex} {drops : List DropIndex}
    (hdialect : ensureDdlSupported text .dropIndex = .ok dialect)
    (hcreate : emitNodeIndexDdl node text = .ok creates) (hdrop : emitNodeDropIndexDdl node text = .ok drops) :
    (∀ handle, handle ∈ drops.map DropIndex.handle ↔ handle ∈ creates.map CreateIndex.handle) ↔
      StrayShared dialect node := by
  have hdialect' := (ensureDdlSupported_drop text).symm.trans hdialect
  rw [emitNodeIndexDdl, hdialect'] at hcreate
  rw [emitNodeDropIndexDdl, hdialect] at hdrop
  change (if _ then _ else _) = _ at hcreate hdrop
  split_ifs at hcreate hdrop
  obtain rfl := Except.ok.inj hcreate
  obtain rfl := Except.ok.inj hdrop
  have hfulltext := funext (handle_dropNodeFulltextIndex dialect node.primaryLabel node)
  simp only [map_append, map_flatMap, map_map, Function.comp_def, hfulltext]
  by_cases hsql : dialect = .sql ∨ dialect = .duckDb
  · have hdrops : ∀ field, (dropNodeFieldIndex dialect node.primaryLabel field).map DropIndex.handle =
        [.named (sqlDropName dialect node.primaryLabel field)] := by
      intro field
      rcases hsql with rfl | rfl <;> rfl
    simp only [handle_nodeFieldIndex hsql, hdrops, ← map_eq_flatMap]
    rw [same_members_iff]
    refine forall_congr' fun field => ?_
    rw [mem_filter, and_imp]
    refine imp_congr_right fun hfield => imp_congr_right fun hpure => ?_
    simp only [named_mem_iff hsql]
    refine ⟨fun h _ => h, fun h => ?_⟩
    by_cases hstray : StrayName dialect field
    · exact h hstray
    · rw [sqlDropName_of_not_stray hsql hstray]
      exact ⟨.inl ⟨field, hfield, hpure, rfl⟩, .inl ⟨field, hfield, hpure, sqlDropName_of_not_stray hsql hstray⟩⟩
  · simp only [handle_dropNodeFieldIndex hsql, implies_true, true_iff]
    exact fun _ _ _ hstray => absurd hstray.1 hsql

lemma mem_map_object {c : Prop} [Decidable c] {stmt : SchemaStatement} {object : SchemaObject} :
    object ∈ (if c then [stmt] else []).map SchemaStatement.object ↔ c ∧ object = stmt.object := by
  split_ifs with h <;> simp [h]

lemma mem_cypherDropFieldDdl (flag : Bool) (field : FieldDescriptor) (object : SchemaObject) :
    object ∈ (cypherDropFieldDdl node.primaryLabel flag field).map SchemaStatement.object ↔
      object ∈ (cypherFieldDdl node.primaryLabel flag field).map SchemaStatement.object ∨
        field.indexed = true ∧ (field.unique || field.primaryKey) = true ∧
          object = .index (createdName .cypher node field) := by
  simp only [cypherDropFieldDdl, cypherFieldDdl, map_append, mem_append, mem_map_object]
  constructor
  · rintro (((h | h) | ⟨hindexed, h⟩) | h)
    · exact .inl (.inl (.inl (.inl h)))
    · exact .inl (.inl (.inl (.inr h)))
    · cases hkey : field.unique || field.primaryKey with
      | true => exact .inr ⟨hindexed, rfl, h⟩
      | false =>
        rw [Bool.or_eq_false_iff] at hkey
        exact .inl (.inl (.inr ⟨by simp [hindexed, hkey], h⟩))
    · exact .inl (.inr h)
  · rintro ((((h | h) | ⟨hpure, h⟩) | h) | ⟨hindexed, -, h⟩)
    · exact .inl (.inl (.inl h))
    · exact .inl (.inl (.inr h))
    · rw [Bool.and_assoc, Bool.and_eq_true] at hpure
      exact .inl (.inr ⟨hpure.1, h⟩)
    · exact .inr h
    · exact .inl (.inr ⟨hindexed, h⟩)

lemma index_mem_cypherFieldDdl (flag : Bool) (field : FieldDescriptor) (name : String) :
    SchemaObject.index name ∈ (cypherFieldDdl node.primaryLabel flag field).map SchemaStatement.object ↔
      isPureIndexField field = true ∧ createdName .cypher node field = name := by
  simp only [cypherFieldDdl, map_append, mem_append, mem_map_object]
  constructor
  · rintro (((⟨-, h⟩ | ⟨-, h⟩) | ⟨hpure, h⟩) | ⟨-, h⟩)
    · cases h
    · cases h
    · exact ⟨hpure, (SchemaObject.index.inj h).symm⟩
    · cases h
  · rintro ⟨hpure, rfl⟩
    exact .inl (.inr ⟨hpure, rfl⟩)

lemma index_mem_emitCypherNodeDdl (flag : Bool) (name : String) :
    SchemaObject.index name ∈ (emitCypherNodeDdl node flag).map SchemaStatement.object ↔
      Uses .cypher node (createdName .cypher node) name := by
  simp only [emitCypherNodeDdl, map_append, map_flatMap, map_map, mem_append, mem_flatMap, index_mem_cypherFieldDdl, Uses]
  refine or_congr Iff.rfl ?_
  rw [and_iff_right (by decide), mem_map]
  exact exists_congr fun ft => and_congr_right fun _ => SchemaObject.index.injEq _ _ ▸ Iff.rfl

lemma objects_drop_iff (flag : Bool) :
    (∀ object, object ∈ (emitCypherDropNodeDdl node flag).map SchemaStatement.object ↔
      object ∈ (emitCypherNodeDdl node flag).map SchemaStatement.object) ↔ KeyIndexShared node := by
  have hdrop : ∀ object, object ∈ (emitCypherDropNodeDdl node flag).map SchemaStatement.object ↔
      object ∈ (emitCypherNodeDdl node flag).map SchemaStatement.object ∨
        ∃ field ∈ node.fields.values, field.indexed = true ∧ (field.unique || field.primaryKey) = true ∧
          object = .index (createdName .cypher node field) := by
    intro object
    simp only [emitCypherDropNodeDdl, emitCypherNodeDdl, map_append, map_flatMap, map_map, mem_append, mem_flatMap,
      mem_cypherDropFieldDdl, and_or_left, exists_or]
    exact or_right_comm
  constructor
  · intro h field hfield hindexed hkey
    exact (index_mem_emitCypherNodeDdl flag _).mp ((h _).mp ((hdrop _).mpr (.inr ⟨field, hfield, hindexed, hkey, rfl⟩)))
  · intro h object
    rw [hdrop, or_iff_left_iff_imp]
    rintro ⟨field, hfield, hindexed, hkey, rfl⟩
    exact (index_mem_emitCypherNodeDdl flag _).mpr (h field hfield hindexed hkey)

end

theorem create_drop_inverse (node : NodeSchema) (dialect : String) (ddlDialect : DdlDialect) (flag : Bool)
    (hdialect : ensureDdlSupported dialect .dropIndex = .ok ddlDialect) :
    (∀ creates drops, emitNodeIndexDdl node dialect = .ok creates → emitNodeDropIndexDdl node dialect = .ok drops →
      ((∀ handle, handle ∈ drops.map DropIndex.handle ↔ handle ∈ creates.map CreateIndex.handle) ↔
        StrayShared ddlDialect node)) ∧
    ((∀ object, object ∈ (emitCypherDropNodeDdl node flag).map SchemaStatement.object ↔
      object ∈ (emitCypherNodeDdl node flag).map SchemaStatement.object) ↔ KeyIndexShared node) :=
  ⟨fun _ _ hcreate hdrop => handles_drop_iff hdialect hcreate hdrop, objects_drop_iff flag⟩

def sampleNode : NodeSchema where
  name := "Person"
  labels := ["Person"]
  fields := ⟨[("bio", { FieldDescriptor.new "bio" .string with indexed := true, indexType := some .text }),
    ("face", { FieldDescriptor.new "face" (.list .float64) with
      indexed := true, indexType := some .vector, vectorConfig := some ⟨128, .dot, some "faces"⟩ }),
    ("id", { FieldDescriptor.new "id" .int64 with nullable := false, primaryKey := true, unique := true })], by decide⟩
  primaryKey := some "id"
  fulltextIndexes := [⟨"", ["bio", "name"], none⟩]

theorem create_drop_sample :
    (∃ creates drops, emitNodeIndexDdl sampleNode "postgres" = .ok creates ∧
      emitNodeDropIndexDdl sampleNode "postgres" = .ok drops ∧
      creates.map CreateIndex.handle =
        [.named "idx_person_bio", .named "faces", .named "idx_person_bio_name_fts"] ∧
      ∀ handle, handle ∈ drops.map DropIndex.handle ↔ handle ∈ creates.map CreateIndex.handle) ∧
    ∀ object, object ∈ (emitCypherDropNodeDdl sampleNode true).map SchemaStatement.object ↔
      object ∈ (emitCypherNodeDdl sampleNode true).map SchemaStatement.object := by
  obtain ⟨hindexes, hobjects⟩ := create_drop_inverse sampleNode "postgres" .sql true rfl
  have hvectors : ∀ field ∈ sampleNode.fields.values, field.isVector = false → field.customName.isSome = false := by
    decide
  have hkeys : ∀ field ∈ sampleNode.fields.values, field.indexed = true →
      (field.unique || field.primaryKey) = false := by
    decide
  refine ⟨⟨_, _, rfl, rfl, by decide, (hindexes _ _ rfl rfl).mpr fun field hfield _ hstray => ?_⟩,
    hobjects.mpr fun field hfield hindexed hkey => ?_⟩
  · exact absurd hstray.2.2 (by simp [hvectors field hfield hstray.2.1])
  · exact absurd hkey (by simp [hkeys field hfield hindexed])

def uniqueEmail : NodeSchema where
  name := "User"
  labels := ["User"]
  fields := .single "email" { FieldDescriptor.new "email" .string with unique := true, indexed := true }
  primaryKey := none
  fulltextIndexes := []

def namedRank : NodeSchema where
  name := "Page"
  labels := ["Page"]
  fields := .single "rank" { FieldDescriptor.new "rank" .int64 with
    indexed := true, indexType := some .bTree, vectorConfig := some ⟨8, .cosine, some "ranks"⟩ }
  primaryKey := none
  fulltextIndexes := []

theorem create_drop_differ :
    ((emitCypherDropNodeDdl uniqueEmail false).map SchemaStatement.text =
        ["DROP CONSTRAINT constraint_user_email_unique IF EXISTS", "DROP INDEX index_user_email IF EXISTS"] ∧
      (emitCypherNodeDdl uniqueEmail false).map SchemaStatement.object =
        [.constraint "constraint_user_email_unique"]) ∧
    ((emitNodeDropIndexDdl namedRank "sql").toOption.map (List.map DropIndex.handle) = some [.named "ranks"] ∧
      (emitNodeIndexDdl namedRank "sql").toOption.map (List.map CreateIndex.handle) =
        some [.named "idx_page_rank"]) := by
  decide

end Voyager.Ddl
