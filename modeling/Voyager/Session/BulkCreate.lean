import Voyager.Session.BulkMerge
import Voyager.Session.BulkRelationships

/-! A bulk plan assigns the properties of its first record. -/

namespace Voyager

open Lib QueryAstArena

/-- The end of both statements that create: the properties are set if there are any. -/
def setProperties (create ident row : NodeHandle) (properties : List String) (unwinds patterns : List NodeHandle)
    (arena : QueryAstArena) : NodeHandle × QueryAstArena :=
  let (setItems, arena) := allocSetItems ident row properties arena
  let (mutations, arena) :=
    if setItems.isEmpty then ([create], arena)
    else
      let (setClause, arena) := arena.alloc (.setClause setItems)
      ([create, setClause], arena)
  arena.alloc (.queryStatement .normal none unwinds patterns [] [] mutations none)

def compileBulkCreate (lower : String → String) (label : String) (properties : List String)
    (batchParam rowAlias : String) : NodeHandle × QueryAstArena :=
  let arena : QueryAstArena := ⟨[]⟩
  let nodeVar := "_" ++ lower label ++ "_0"
  let (batchParamHandle, arena) := arena.alloc (.parameter batchParam)
  let (unwindHandle, arena) := arena.alloc (.unwindClause batchParamHandle rowAlias)
  let (nodePatternHandle, arena) := arena.alloc (.nodePattern (some nodeVar) (some (.label label)) [])
  let (createHandle, arena) := arena.alloc (.createClause [nodePatternHandle])
  let (nodeVarIdent, arena) := arena.alloc (.identifier nodeVar)
  let (rowAliasIdent, arena) := arena.alloc (.identifier rowAlias)
  setProperties createHandle nodeVarIdent rowAliasIdent properties [unwindHandle] [] arena

inductive RelModel where
  | name (relType : String)
  | cls (relType : String) (fields : List String)

section

variable {D : Type} (lower : String → String)

def firstRecord (batches : List (List (Record D))) : Option (Record D) := batches.head?.bind List.head?

def firstKeys (batches : List (List (Record D))) : List String := (firstRecord batches).elim [] Dict.keys

def createBulkCreatePlan (model : Model) (data : List (Record D)) (batchSize : ℕ) : BulkIngestionPlan D :=
  let batches := chunkRecords batchSize data
  let properties := if model.fields.isEmpty then firstKeys batches else model.fields
  ⟨compileBulkCreate lower model.label properties "batch" "row", batches⟩

/-- The error names the endpoint keys that the first record lacks. -/
def createBulkCreateRelPlan (relModel : RelModel) (data : List (Record D))
    (fromLabel fromKey toLabel toKey : String) (batchSize : ℕ) (properties : Option (List String)) :
    Except (List String) (BulkIngestionPlan D) :=
  let endpoints := ["from_" ++ fromKey, "to_" ++ toKey]
  let batches := chunkRecords batchSize data
  let missing := (firstRecord batches).elim [] fun first => endpoints.filter (· ∉ first.keys)
  let inferred := (firstKeys batches).filter (· ∉ endpoints)
  let plan := fun relType props =>
    ⟨compileBulkCreateRel lower relType props fromLabel fromKey toLabel toKey "batch" "row", batches⟩
  if missing.isEmpty then
    match relModel with
    | .name relType => .ok (plan relType (properties.getD inferred))
    | .cls relType fields => .ok (plan relType (properties.getD (if fields.isEmpty then inferred else fields)))
  else .error missing

end

def assignedProperty (arena : QueryAstArena) (item : NodeHandle) : Option String :=
  match arena.nodes[item]? with
  | some (.setItem target _ _) =>
    match arena.nodes[target]? with
    | some (.propertyAccess _ prop) => some prop
    | _ => none
  | _ => none

def assignedKeys (statement : NodeHandle × QueryAstArena) : List String :=
  match statement.2.nodes[statement.1]? with
  | some (.queryStatement _ _ _ _ _ _ mutations _) => mutations.flatMap fun (clause : NodeHandle) =>
    match statement.2.nodes[clause]? with
    | some (.setClause items) => items.filterMap (assignedProperty statement.2)
    | _ => []
  | _ => []

section

variable {arena : QueryAstArena} {ident row : NodeHandle}

lemma filterMap_assignedProperty {props : List String} {items : List NodeHandle}
    (h : ItemsFor arena ident row props items) : items.filterMap (assignedProperty arena) = props := by
  induction h with
  | nil => rfl
  | cons hitem _ ih =>
    obtain ⟨target, value, hitem, htarget, -⟩ := hitem
    simp [assignedProperty, hitem, htarget, ih]

lemma assignedKeys_setProperties {create : NodeHandle} {paths : List NodeHandle}
    (hcreate : arena.nodes[create]? = some (.createClause paths)) (props : List String)
    (unwinds patterns : List NodeHandle) :
    assignedKeys (setProperties create ident row props unwinds patterns arena) = props := by
  obtain ⟨hgrows, hitems⟩ := allocSetItems_spec ident row props arena
  simp only [setProperties]
  cases hnone : (allocSetItems ident row props arena).1 with
  | nil =>
    rw [hnone] at hitems
    cases hitems
    simp [assignedKeys, alloc_node, (hgrows.trans (grows_alloc _ _)).node hcreate]
  | cons item items =>
    rw [hnone] at hitems
    have hset : ∀ n m, _ := fun n m => (grows_alloc (allocSetItems ident row props arena).2 n).trans (grows_alloc _ m)
    simp [assignedKeys, alloc_node, (hgrows.trans (hset _ _)).node hcreate, (grows_alloc _ _).node (alloc_node _ _),
      filterMap_assignedProperty (hitems.grows (hset _ _))]

end

section

variable (lower : String → String) (properties : List String)

attribute [local irreducible] QueryAstArena.alloc

lemma assignedKeys_compileBulkCreate (label batchParam rowAlias : String) :
    assignedKeys (compileBulkCreate lower label properties batchParam rowAlias) = properties :=
  assignedKeys_setProperties (((grows_alloc _ _).trans (grows_alloc _ _)).node (alloc_node _ _)) _ _ _

lemma assignedKeys_compileBulkCreateRel (relType fromLabel fromKey toLabel toKey batchParam rowAlias : String) :
    assignedKeys (compileBulkCreateRel lower relType properties fromLabel fromKey toLabel toKey batchParam rowAlias) =
      properties :=
  assignedKeys_setProperties ((grows_alloc _ _).node (alloc_node _ _)) _ _ _

end

section

variable {D : Type} {batchSize : ℕ} (hsize : 0 < batchSize)

include hsize

lemma firstRecord_chunkRecords (data : List (Record D)) : firstRecord (chunkRecords batchSize data) = data.head? := by
  cases data with
  | nil => simp [firstRecord, chunkRecords, Nat.div_eq_of_lt (Nat.sub_lt hsize one_pos)]
  | cons first rest =>
    simp [firstRecord, chunkRecords, Nat.add_div_right _ hsize, List.range_succ_eq_map, List.head?_take, hsize.ne']

/-- Every record of an accepted plan has both endpoints, and its other keys are assigned; a refused one lacks an
endpoint in some record. -/
def RelPlanKeeps (endpoints : List String) (data : List (Record D)) :
    Except (List String) (BulkIngestionPlan D) → Prop
  | .ok plan => ∀ r ∈ data, endpoints ⊆ r.keys ∧ r.keys ⊆ endpoints ++ assignedKeys plan.statement
  | .error _ => ∃ r ∈ data, ¬ endpoints ⊆ r.keys

theorem bulkPlans_assign_every_key (lower : String → String) {model : Model} (hfields : model.fields = [])
    (relType fromLabel fromKey toLabel toKey : String) (data : List (Record D)) :
    ((∀ r ∈ data, r.keys ⊆ assignedKeys (createBulkCreatePlan lower model data batchSize).statement) ∧
      RelPlanKeeps ["from_" ++ fromKey, "to_" ++ toKey] data
        (createBulkCreateRelPlan lower (.name relType) data fromLabel fromKey toLabel toKey batchSize none)) ↔
    ∀ first ∈ data.head?, (∀ r ∈ data, r.keys ⊆ first.keys) ∧
      (["from_" ++ fromKey, "to_" ++ toKey] ⊆ first.keys → ∀ r ∈ data, ["from_" ++ fromKey, "to_" ++ toKey] ⊆ r.keys) := by
  cases data with
  | nil => simp [createBulkCreateRelPlan, firstRecord_chunkRecords hsize, RelPlanKeeps]
  | cons first rest =>
    have hkeys : firstKeys (chunkRecords batchSize (first :: rest)) = first.keys := by
      rw [firstKeys, firstRecord_chunkRecords hsize]
      rfl
    simp only [createBulkCreatePlan, hfields, List.isEmpty_nil, if_true, hkeys, assignedKeys_compileBulkCreate,
      createBulkCreateRelPlan, firstRecord_chunkRecords hsize, List.head?_cons, Option.elim_some, Option.getD_none,
      Option.mem_some, forall_eq']
    generalize ["from_" ++ fromKey, "to_" ++ toKey] = endpoints
    have hmissing : (endpoints.filter (· ∉ first.keys)).isEmpty = true ↔ endpoints ⊆ first.keys := by
      simp [List.subset_def]
    refine and_congr_right fun hfirst => ?_
    split_ifs with h
    · simp only [RelPlanKeeps, assignedKeys_compileBulkCreateRel, hmissing.mp h, forall_const]
      refine forall₂_congr fun r hr => and_iff_left fun key hkey => ?_
      by_cases hmem : key ∈ endpoints
      · simp [hmem]
      · simp [hmem, hfirst r hr hkey]
    · exact iff_of_true ⟨first, List.mem_cons_self, mt hmissing.mpr h⟩ fun hall => absurd hall (mt hmissing.mpr h)

end

def friends : List (Record ℕ) := [⟨[("from_id", some 1), ("to_id", some 2)], by decide⟩,
  ⟨[("from_id", some 1), ("to_id", none)], by decide⟩]

theorem bulkPlans_assign_every_key_friends :
    friends ≠ [] ∧ ∀ r ∈ friends,
      r.keys ⊆ assignedKeys (createBulkCreatePlan id ⟨0, "Friend", [], []⟩ friends 1).statement :=
  ⟨nofun, ((bulkPlans_assign_every_key one_pos id rfl "" "" "" "" "" friends).mpr (by decide)).1⟩

theorem bulkPlans_lose_since :
    let data : List (Record ℕ) := friends ++ [⟨[("to_id", some 3), ("since", some 4)], by decide⟩]
    "since" ∉ assignedKeys (createBulkCreatePlan id ⟨0, "Friend", [], []⟩ data 50000).statement ∧
      ∃ plan, createBulkCreateRelPlan id (.name "KNOWS") data "Person" "id" "Person" "id" 50000 none = .ok plan ∧
        "since" ∉ assignedKeys plan.statement :=
  ⟨by decide +kernel, _, rfl, by decide +kernel⟩

end Voyager
