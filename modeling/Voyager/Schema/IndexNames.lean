import Voyager.Lib.Tracking
import Voyager.Schema.IndexDdl

/-! Labels and properties joined by underscores are told apart by their words only. -/

namespace Voyager.Ddl

open Lib List Option

def UniqueNames (stmts : List CreateIndex) : Prop :=
  ∀ a ∈ stmts, ∀ b ∈ stmts, ∀ name, a.handle = .named name → b.handle = .named name → a.index = b.index

structure NoUserNames (registry : SchemaRegistry) : Prop where
  field : ∀ node ∈ registry.nodes.values, ∀ field ∈ node.fields.values, field.customName = none
  fulltext : ∀ node ∈ registry.nodes.values, ∀ ft ∈ node.fulltextIndexes, ft.name = ""
  relFulltext : ∀ rel ∈ registry.relationships.values, ∀ ft ∈ rel.fulltextIndexes, ft.name = ""

def words (text : String) : List (List Char) := text.toList.splitOn '_'

def lowerWords (text : String) : List (List Char) := words (toAsciiLowercase text)

lemma words_injective {a b : String} (h : words a = words b) : a = b := by
  have hjoin := congrArg ['_'].intercalate h
  rw [words, words, intercalate_splitOn, intercalate_splitOn] at hjoin
  exact String.toList_inj.mp hjoin

lemma words_append (a b : String) : words (a ++ "_" ++ b) = words a ++ words b := by
  have htext : (a ++ "_" ++ b).toList = a.toList ++ '_' :: b.toList := by simp [String.toList_append]
  rw [words, htext]
  exact splitOnP_append_cons _ _ (beq_self_eq_true '_')

lemma words_intercalate {texts : List String} (hne : texts ≠ []) : words ("_".intercalate texts) = texts.flatMap words := by
  induction texts with
  | nil => exact absurd rfl hne
  | cons text texts ih =>
    cases texts with
    | nil => simp
    | cons text' texts => rw [String.intercalate_cons_cons, words_append, ih (cons_ne_nil text' texts), ← flatMap_cons]

section

variable (dialect : DdlDialect)

def fieldKind (field : FieldDescriptor) : IndexKind :=
  match dialect with
  | .cypher => cypherKind field.indexType
  | _ => if field.isVector then .vector else .range

def fieldIndex (label : String) (field : FieldDescriptor) : Index :=
  ⟨.node, label, [field.name], fieldKind dialect field⟩

def nodeIndexes (node : NodeSchema) : List Index :=
  (node.fields.values.filter isPureIndexField).map (fieldIndex dialect node.primaryLabel) ++
    node.fulltextIndexes.map fun ft => ⟨.node, node.primaryLabel, ft.properties, .fulltext⟩

def relIndexes (rel : RelationshipSchema) : List Index :=
  (rel.fields.values.filter isPureIndexField).map (fun field => ⟨.relationship, rel.typeName, [field.name], .range⟩) ++
    rel.fulltextIndexes.map fun ft => ⟨.relationship, rel.typeName, ft.properties, .fulltext⟩

def declaredIndexes (registry : SchemaRegistry) (modelNames : Option (List String)) : List Index :=
  (registry.filterModels modelNames).1.flatMap (nodeIndexes dialect) ++
    (registry.filterModels modelNames).2.flatMap relIndexes

/-- The other indexes are located by label and property, or have no statement. -/
def isNamed (i : Index) : Bool :=
  match dialect with
  | .cypher | .sql => true
  | .duckDb => i.kind ≠ .fulltext
  | .memgraph | .age => i.kind ≠ .range
  | .falkorDb => false

def isRelational : Bool :=
  match dialect with
  | .duckDb | .sql | .age => true
  | .cypher | .memgraph | .falkorDb => false

def fulltextWords (properties : List String) : List (List Char) :=
  if properties = [] ∨ properties = [""] then words "fulltext" else properties.flatMap lowerWords

/-- The words of the label or type and of the properties, in the order in which the dialect writes them. -/
def indexWords (i : Index) : List (List Char) :=
  if isRelational dialect then
    lowerWords i.owner ++
      match i.kind with
      | .vector => i.properties.flatMap lowerWords ++ words "vector"
      | .fulltext => fulltextWords i.properties ++ words "fts"
      | _ => i.properties.flatMap words
  else
    (if i.entity = .relationship ∧ i.kind = .range then words "rel" else []) ++ lowerWords i.owner ++
      if i.kind = .fulltext then fulltextWords i.properties else i.properties.flatMap lowerWords

def WordsApart (indexes : List Index) : Prop :=
  ∀ i ∈ indexes, ∀ j ∈ indexes, isNamed dialect i = true → isNamed dialect j = true →
    indexWords dialect i = indexWords dialect j → i = j

def spelled (i : Index) : List (List Char) × Index :=
  (words (if isRelational dialect then "idx" else "index") ++ indexWords dialect i, i)

end

def CreateIndex.entry (a : CreateIndex) : Option (List (List Char) × Index) :=
  match a.handle with
  | .named name => some (words name, a.index)
  | _ => none

lemma uniqueNames_iff (stmts : List CreateIndex) : UniqueNames stmts ↔
    ∀ x ∈ stmts.filterMap CreateIndex.entry, ∀ y ∈ stmts.filterMap CreateIndex.entry, x.1 = y.1 → x.2 = y.2 := by
  have hentry : ∀ a : CreateIndex, ∀ x, a.entry = some x ↔ ∃ name, a.handle = .named name ∧ x = (words name, a.index) := by
    intro a x
    rw [CreateIndex.entry]
    split <;> simp_all [eq_comm]
  simp only [mem_filterMap, hentry]
  constructor
  · rintro h _ ⟨a, ha, name, hname, rfl⟩ _ ⟨b, hb, name', hname', rfl⟩ hwords
    obtain rfl := words_injective hwords
    exact h a ha b hb name hname hname'
  · intro h a ha b hb name hname hname'
    exact h _ ⟨a, ha, name, hname, rfl⟩ _ ⟨b, hb, name, hname', rfl⟩ rfl

section

variable {dialect : DdlDialect}

lemma words_three (a b c : String) : words (a ++ "_" ++ b ++ "_" ++ c) = words a ++ (words b ++ words c) := by
  rw [words_append, words_append, append_assoc]

lemma words_four (a b c d : String) :
    words (a ++ "_" ++ b ++ "_" ++ c ++ ("_" ++ d)) = words a ++ (words b ++ (words c ++ words d)) := by
  rw [← String.append_assoc, words_append, words_three]
  simp only [append_assoc]

lemma words_canonicalVectorIndexName (label prop : String) : words (canonicalVectorIndexName label prop dialect) =
    (spelled dialect ⟨.node, label, [prop], .vector⟩).1 := by
  cases dialect with
  | cypher | memgraph | falkorDb =>
    refine (words_three "index" (toAsciiLowercase label) (toAsciiLowercase prop)).trans ?_
    simp [spelled, isRelational, indexWords, lowerWords]
  | sql | duckDb | age =>
    refine (words_four "idx" (toAsciiLowercase label) (toAsciiLowercase prop) "vector").trans ?_
    simp [spelled, isRelational, indexWords, lowerWords]

lemma words_cypherFieldIndexName {label : String} {field : FieldDescriptor} (hname : field.customName = none) :
    words (cypherFieldIndexName .cypher label field) = (spelled .cypher (fieldIndex .cypher label field)).1 := by
  have hkind : cypherKind field.indexType ≠ .fulltext := by
    rw [cypherKind.eq_def]
    split <;> decide
  have hsame : cypherFieldIndexName .cypher label field = cypherIndexName label field.name := by
    rw [cypherFieldIndexName, hname, getD_none]
    split <;> rfl
  rw [hsame]
  refine (words_three "index" (toAsciiLowercase label) (toAsciiLowercase field.name)).trans ?_
  simp [spelled, isRelational, indexWords, fieldIndex, fieldKind, hkind, lowerWords]

lemma words_vectorName {label : String} {field : FieldDescriptor} (hname : field.customName = none) :
    words (vectorName dialect label field) = (spelled dialect ⟨.node, label, [field.name], .vector⟩).1 := by
  rw [vectorName, hname]
  exact words_canonicalVectorIndexName label field.name

lemma words_sqlIndexName (hdialect : isRelational dialect = true) (entity : Entity) (owner : String)
    (field : FieldDescriptor) : words (sqlIndexName (toAsciiLowercase owner) field) =
      (spelled dialect ⟨entity, owner, [field.name], .range⟩).1 := by
  refine (words_three "idx" (toAsciiLowercase owner) field.name).trans ?_
  simp [spelled, hdialect, indexWords, lowerWords]

lemma words_cypherRelIndexName (typeName prop : String) : words (cypherRelIndexName typeName prop) =
    (spelled .cypher ⟨.relationship, typeName, [prop], .range⟩).1 := by
  refine (words_append ("index" ++ "_" ++ "rel" ++ "_" ++ toAsciiLowercase typeName) (toAsciiLowercase prop)).trans ?_
  rw [words_three]
  simp [spelled, isRelational, indexWords, lowerWords]

lemma toAsciiLowercase_eq_empty {s : String} : toAsciiLowercase s = "" ↔ s = "" := by
  refine ⟨fun h => ?_, fun h => by rw [h]; rfl⟩
  have hlist := congrArg String.toList h
  rw [toAsciiLowercase, String.toList_ofList] at hlist
  exact String.toList_inj.mp (map_eq_nil_iff.mp hlist)

lemma intercalate_lowercase_eq_empty (properties : List String) :
    "_".intercalate (properties.map toAsciiLowercase) = "" ↔ properties = [] ∨ properties = [""] := by
  match properties with
  | [] => simp
  | [p] => simp [toAsciiLowercase_eq_empty]
  | p :: q :: rest => simp [String.intercalate_cons_cons]

lemma words_fulltextName {ft : FullTextIndexConfig} (hname : ft.name = "") (entity : Entity) (owner : String) :
    words (fulltextName owner ft dialect) = (spelled dialect ⟨entity, owner, ft.properties, .fulltext⟩).1 := by
  set suffix := (if ("_".intercalate (ft.properties.map toAsciiLowercase)).isEmpty then "fulltext"
    else "_".intercalate (ft.properties.map toAsciiLowercase)) with hsuffix
  have hwords : words suffix = fulltextWords ft.properties := by
    rw [hsuffix, fulltextWords]
    simp only [String.isEmpty_iff, intercalate_lowercase_eq_empty]
    split_ifs with hempty
    · rfl
    · rw [words_intercalate (by simpa using fun h => hempty (.inl h)), flatMap_map]
      rfl
  have hcanonical : fulltextName owner ft dialect = canonicalFulltextIndexName owner ft.properties dialect := by
    rw [fulltextName, hname]
    rfl
  rw [hcanonical]
  cases dialect with
  | cypher | memgraph | falkorDb =>
    refine (words_three "index" (toAsciiLowercase owner) suffix).trans ?_
    simp [spelled, isRelational, indexWords, hwords, lowerWords]
  | sql | duckDb | age =>
    refine (words_four "idx" (toAsciiLowercase owner) suffix "fts").trans ?_
    simp [spelled, isRelational, indexWords, hwords, lowerWords]

lemma entries_of_named {a : CreateIndex} {name : String} (hhandle : a.handle = .named name)
    (hwords : words name = (spelled dialect a.index).1) (hnamed : isNamed dialect a.index = true) :
    [a].filterMap CreateIndex.entry = ([a.index].filter (isNamed dialect)).map (spelled dialect) := by
  have hentry : a.entry = some (spelled dialect a.index) := by
    simp only [CreateIndex.entry, hhandle, hwords]
    rfl
  simp [hentry, hnamed]

lemma entries_of_unnamed {a : CreateIndex} (hhandle : ∀ name, a.handle ≠ .named name)
    (hnamed : isNamed dialect a.index = false) :
    [a].filterMap CreateIndex.entry = ([a.index].filter (isNamed dialect)).map (spelled dialect) := by
  have hentry : a.entry = none := by
    rw [CreateIndex.entry]
    split
    · exact absurd ‹_› (hhandle _)
    · rfl
  simp [hentry, hnamed]

lemma entries_nodeFieldIndex {label : String} {field : FieldDescriptor} (hname : field.customName = none) :
    (nodeFieldIndex dialect label field).filterMap CreateIndex.entry =
      ([fieldIndex dialect label field].filter (isNamed dialect)).map (spelled dialect) := by
  have hvector : words (vectorName dialect label field) = _ := words_vectorName hname
  cases dialect with
  | cypher => exact entries_of_named rfl (words_cypherFieldIndexName hname) rfl
  | memgraph =>
    simp only [nodeFieldIndex, memgraphFieldIndex, fieldIndex, fieldKind]
    split_ifs
    · exact entries_of_named rfl hvector rfl
    · exact entries_of_unnamed nofun rfl
  | falkorDb =>
    simp only [nodeFieldIndex, falkorFieldIndex, fieldIndex, fieldKind]
    split_ifs <;> exact entries_of_unnamed nofun rfl
  | age =>
    simp only [nodeFieldIndex, fieldIndex, fieldKind]
    split_ifs
    · exact entries_of_named rfl hvector rfl
    · rfl
  | sql | duckDb =>
    simp only [nodeFieldIndex, fieldIndex, fieldKind]
    split_ifs
    · exact entries_of_named rfl hvector rfl
    · exact entries_of_named rfl (words_sqlIndexName rfl .node label field) rfl

lemma entries_nodeFulltextIndex (label : String) (node : NodeSchema) {ft : FullTextIndexConfig} (hname : ft.name = "") :
    [nodeFulltextIndex dialect label node ft].filterMap CreateIndex.entry =
      ([⟨.node, label, ft.properties, .fulltext⟩].filter (isNamed dialect)).map (spelled dialect) := by
  cases dialect with
  | duckDb | falkorDb => exact entries_of_unnamed (a := nodeFulltextIndex _ label node ft) nofun rfl
  | cypher | memgraph | sql | age =>
    exact entries_of_named (a := nodeFulltextIndex _ label node ft) rfl (words_fulltextName hname .node label) rfl

lemma entries_relFieldIndex (hage : dialect ≠ .age) (typeName : String) (field : FieldDescriptor) :
    [relFieldIndex dialect typeName field].filterMap CreateIndex.entry =
      ([⟨.relationship, typeName, [field.name], .range⟩].filter (isNamed dialect)).map (spelled dialect) := by
  cases dialect with
  | age => exact absurd rfl hage
  | memgraph | falkorDb => exact entries_of_unnamed (a := relFieldIndex _ typeName field) nofun rfl
  | sql | duckDb =>
    exact entries_of_named (a := relFieldIndex _ typeName field) rfl (words_sqlIndexName rfl .relationship typeName field) rfl
  | cypher =>
    exact entries_of_named (a := relFieldIndex _ typeName field) rfl (words_cypherRelIndexName typeName field.name) rfl

lemma entries_relFulltextIndex (hfalkor : dialect ≠ .falkorDb) (typeName : String) {ft : FullTextIndexConfig}
    (hname : ft.name = "") : [relFulltextIndex dialect typeName ft].filterMap CreateIndex.entry =
      ([⟨.relationship, typeName, ft.properties, .fulltext⟩].filter (isNamed dialect)).map (spelled dialect) := by
  cases dialect with
  | falkorDb => exact absurd rfl hfalkor
  | duckDb => exact entries_of_unnamed (a := relFulltextIndex _ typeName ft) nofun rfl
  | cypher | memgraph | sql | age =>
    exact entries_of_named (a := relFulltextIndex _ typeName ft) rfl (words_fulltextName hname .relationship typeName) rfl

lemma filterMap_flatMap_eq {α : Type} {xs : List α} {make : α → List CreateIndex} {index : α → Index}
    (h : ∀ x ∈ xs, (make x).filterMap CreateIndex.entry = ([index x].filter (isNamed dialect)).map (spelled dialect)) :
    (xs.flatMap make).filterMap CreateIndex.entry = ((xs.map index).filter (isNamed dialect)).map (spelled dialect) := by
  induction xs with
  | nil => rfl
  | cons x xs ih =>
    obtain ⟨hx, hxs⟩ := forall_mem_cons.mp h
    rw [flatMap_cons, filterMap_append, hx, ih hxs, ← map_append, ← filter_append, singleton_append, map_cons]

lemma filterMap_map_eq {α : Type} {xs : List α} {make : α → CreateIndex} {index : α → Index}
    (h : ∀ x ∈ xs, [make x].filterMap CreateIndex.entry = ([index x].filter (isNamed dialect)).map (spelled dialect)) :
    (xs.map make).filterMap CreateIndex.entry = ((xs.map index).filter (isNamed dialect)).map (spelled dialect) := by
  rw [map_eq_flatMap]
  exact filterMap_flatMap_eq h

variable {registry : SchemaRegistry} {text : String} (hdialect : ensureDdlSupported text .createIndex = .ok dialect)
  (hnames : NoUserNames registry) {stmts : List CreateIndex}

include hdialect hnames

lemma entries_emitNodeIndexDdl {node : NodeSchema} (hnode : node ∈ registry.nodes.values)
    (hok : emitNodeIndexDdl node text = .ok stmts) : stmts.filterMap CreateIndex.entry =
      ((nodeIndexes dialect node).filter (isNamed dialect)).map (spelled dialect) := by
  rw [emitNodeIndexDdl, hdialect] at hok
  change (if _ then _ else _) = _ at hok
  split_ifs at hok
  obtain rfl := Except.ok.inj hok
  rw [nodeIndexes, filterMap_append, filter_append, map_append]
  congr 1
  · exact filterMap_flatMap_eq fun field hfield =>
      entries_nodeFieldIndex (hnames.field node hnode field (mem_filter.mp hfield).1)
  · exact filterMap_map_eq fun ft hft => entries_nodeFulltextIndex _ node (hnames.fulltext node hnode ft hft)

lemma entries_emitRelIndexDdl {rel : RelationshipSchema} (hrel : rel ∈ registry.relationships.values)
    (hok : emitRelIndexDdl rel text = .ok stmts) : stmts.filterMap CreateIndex.entry =
      ((relIndexes rel).filter (isNamed dialect)).map (spelled dialect) := by
  rw [emitRelIndexDdl, hdialect] at hok
  change (if _ then _ else if _ then _ else _) = _ at hok
  split_ifs at hok with hage hfalkor
  obtain rfl := Except.ok.inj hok
  rw [relIndexes, filterMap_append, filter_append, map_append]
  congr 1
  · exact filterMap_map_eq fun field _ => entries_relFieldIndex hage _ field
  · refine filterMap_map_eq fun ft hft => entries_relFulltextIndex (fun h => hfalkor ⟨h, ?_⟩) _
      (hnames.relFulltext rel hrel ft hft)
    simp [ne_nil_of_mem hft]

omit hdialect hnames in
lemma entries_flatten {α : Type} {emit : α → Except DdlError (List CreateIndex)} {xs : List α}
    {created : List (List CreateIndex)} {indexes : α → List Index} (hok : xs.mapM emit = .ok created)
    (h : ∀ x ∈ xs, ∀ stmts, emit x = .ok stmts →
      stmts.filterMap CreateIndex.entry = ((indexes x).filter (isNamed dialect)).map (spelled dialect)) :
    created.flatten.filterMap CreateIndex.entry =
      ((xs.flatMap indexes).filter (isNamed dialect)).map (spelled dialect) := by
  have hall := forall₂_of_except_mapM_ok hok
  clear hok
  induction hall with
  | nil => rfl
  | cons hx _ ih =>
    obtain ⟨hhead, htail⟩ := forall_mem_cons.mp h
    rw [flatten_cons, filterMap_append, hhead _ hx, ih htail, flatMap_cons, filter_append, map_append]

end

variable {names : Option (List String)}

lemma mem_of_mem_filterNodes {nodes : List NodeSchema} {node : NodeSchema}
    (h : node ∈ SchemaRegistry.filterNodes names nodes) : node ∈ nodes := by
  cases names with
  | none => exact h
  | some names => exact mem_of_mem_filter h

lemma mem_of_mem_filterRelationships {rels : List RelationshipSchema} {rel : RelationshipSchema}
    (h : rel ∈ SchemaRegistry.filterRelationships names rels) : rel ∈ rels := by
  cases names with
  | none => exact h
  | some names => exact mem_of_mem_filter h

def indexedField (name : String) (indexType : IndexType) : FieldDescriptor :=
  { FieldDescriptor.new name .string with indexed := true, indexType := some indexType }

def socialRegistry : SchemaRegistry where
  nodes := .single "Person" ⟨"Person", ["Person"],
    ⟨[("face", indexedField "face" .vector), ("name", indexedField "name" .text)], by decide⟩, none,
    [⟨"", ["bio", "name"], none⟩]⟩
  relationships := .single "Knows" ⟨"Knows", "KNOWS", ["Person"], ["Person"],
    .single "since" (indexedField "since" .bTree), true, [⟨"", ["note"], some "english"⟩]⟩

/-- A property with an index of its own and a full-text index over nothing else. -/
def searchedRegistry : SchemaRegistry where
  nodes := .single "Person" ⟨"Person", ["Person"], .single "name" (indexedField "name" .bTree), none,
    [⟨"", ["name"], none⟩]⟩
  relationships := .empty

end Voyager.Ddl
