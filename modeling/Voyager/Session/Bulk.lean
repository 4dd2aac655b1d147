import Voyager.Ast
import Voyager.Session.Entities

namespace Voyager

open Lib

abbrev Record (D : Type) := Dict String (Option D)

section

variable {α : Type}

def chunkRecords (batchSize : ℕ) (records : List α) : List (List α) :=
  (List.range ((records.length + batchSize - 1) / batchSize)).map fun i =>
    (records.drop (i * batchSize)).take batchSize

lemma flatten_chunks (size n : ℕ) (records : List α) :
    ((List.range n).map fun i => (records.drop (i * size)).take size).flatten = records.take (n * size) := by
  induction n with
  | zero => simp
  | succ n ih => rw [List.range_succ, List.map_append, List.flatten_append, ih, Nat.succ_mul, List.take_add]; simp

lemma flatten_chunkRecords {batchSize : ℕ} (h : 0 < batchSize) (records : List α) :
    (chunkRecords batchSize records).flatten = records := by
  have hle : records.length ≤ (records.length + batchSize - 1) / batchSize * batchSize := by
    have := Nat.div_add_mod (records.length + batchSize - 1) batchSize
    have := Nat.mod_lt (records.length + batchSize - 1) h
    rw [mul_comm]
    omega
  rw [chunkRecords, flatten_chunks, List.take_of_length_le hle]

end

section

variable (lower : String → String)

def allocSetItem (nodeVarIdent rowAliasIdent : NodeHandle) (prop : String) (arena : QueryAstArena) :
    NodeHandle × QueryAstArena :=
  let (targetProp, arena) := arena.alloc (.propertyAccess nodeVarIdent prop)
  let (rowProp, arena) := arena.alloc (.propertyAccess rowAliasIdent prop)
  arena.alloc (.setItem targetProp rowProp false)

def allocSetItems (nodeVarIdent rowAliasIdent : NodeHandle) :
    List String → QueryAstArena → List NodeHandle × QueryAstArena
  | [], arena => ([], arena)
  | prop :: props, arena =>
    let (item, arena) := allocSetItem nodeVarIdent rowAliasIdent prop arena
    let (items, arena) := allocSetItems nodeVarIdent rowAliasIdent props arena
    (item :: items, arena)

def compileBulkMerge (label keyProperty : String) (properties : List String) (batchParam rowAlias : String) :
    NodeHandle × QueryAstArena :=
  let arena : QueryAstArena := ⟨[]⟩
  let nodeVar := "_" ++ lower label ++ "_0"
  let (batchParamHandle, arena) := arena.alloc (.parameter batchParam)
  let (unwindHandle, arena) := arena.alloc (.unwindClause batchParamHandle rowAlias)
  let (nodeVarIdent, arena) := arena.alloc (.identifier nodeVar)
  let (rowAliasIdent, arena) := arena.alloc (.identifier rowAlias)
  let (nodeKeyProp, arena) := arena.alloc (.propertyAccess nodeVarIdent keyProperty)
  let (rowKeyProp, arena) := arena.alloc (.propertyAccess rowAliasIdent keyProperty)
  let (keyPred, arena) := arena.alloc (.binaryExpression nodeKeyProp .eq rowKeyProp)
  let (nodePatternHandle, arena) := arena.alloc (.nodePattern (some nodeVar) (some (.label label)) [keyPred])
  let (items, arena) := allocSetItems nodeVarIdent rowAliasIdent properties arena
  let (mergeHandle, arena) := arena.alloc (.mergeClause nodePatternHandle items items)
  arena.alloc (.queryStatement .normal none [unwindHandle] [] [] [] [mergeHandle] none)

structure BulkIngestionPlan (D : Type) where
  statement : NodeHandle × QueryAstArena
  batches : List (List (Record D))

variable {D : Type}

def mergeProperties (model : Model) (keyField : String) (batches : List (List (Record D))) : List String :=
  let properties := model.fields.filter (· ≠ keyField)
  if properties.isEmpty then
    match batches with
    | (first :: _) :: _ => first.keys.filter (· ≠ keyField)
    | _ => []
  else properties

def createBulkMergePlan (model : Model) (keyField : String) (data : List (Record D)) : BulkIngestionPlan D :=
  let batches := chunkRecords 50000 data
  { statement := compileBulkMerge lower model.label keyField (mergeProperties model keyField batches) "batch" "row"
    batches := batches }

end

section

variable {V D : Type} (serialize : V → D) (lower : String → String)

def Node.record (n : Node V) (keyField : String) : Record D :=
  let record := n.dirty.mapValues (Option.map serialize)
  match n.get keyField with
  | some primaryVal => record.set keyField (some (serialize primaryVal))
  | none => record

namespace Session

def dirtyByModel (s : Session V) : Dict Model (List NodeRef) :=
  s.identityMap.entries.foldl (fun groups e =>
    if (s.nodes e.2).dirty.isEmpty then groups else groups.push (s.nodes e.2).model e.2) Dict.empty

def prepareFlushBatches (s : Session V) (keyField : String) : List (Model × List NodeRef × BulkIngestionPlan D) :=
  if !s.enableIdentityMap then []
  else s.dirtyByModel.entries.map fun group =>
    (group.1, group.2,
      createBulkMergePlan lower group.1 keyField (group.2.map fun ref => (s.nodes ref).record serialize keyField))

end Session

end

end Voyager
