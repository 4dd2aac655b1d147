import Voyager.Ast
import Voyager.Lib.Savepoints

namespace Voyager

open Lib

inductive TransactionState
  | active | committed | rolledBack
deriving DecidableEq, Repr

structure PropertyMap where
  entries : List (String × LiteralValue)
  sorted : (entries.map Prod.fst).Pairwise (· < ·)

inductive EntityMutation
  | insertNode (tempId : UInt64) (labels : List String) (properties : PropertyMap)
  | updateNode (nodeId : UInt64) (oldProperties newProperties : PropertyMap)
  | deleteNode (nodeId : UInt64) (oldLabels : List String) (oldProperties : PropertyMap)
  | insertEdge (tempId sourceId targetId : UInt64) (edgeType : String) (properties : PropertyMap)
  | deleteEdge (edgeId sourceId targetId : UInt64) (edgeType : String) (oldProperties : PropertyMap)

structure CheckpointState where
  arenaLen : ℕ
  mutationCount : ℕ
deriving DecidableEq, Repr

structure Savepoint where
  name : String
  checkpoint : CheckpointState
deriving DecidableEq, Repr

structure UnitOfWork where
  mutations : List EntityMutation
  nextTempId : UInt64

namespace UnitOfWork

def new : UnitOfWork := ⟨[], 1⟩

variable (uow : UnitOfWork)

def push (mutation : EntityMutation) : UnitOfWork :=
  { uow with mutations := uow.mutations ++ [mutation] }

def registerNewNode (labels : List String) (properties : PropertyMap) : UInt64 × UnitOfWork :=
  let tempId := uow.nextTempId
  (tempId, push { uow with nextTempId := uow.nextTempId + 1 } (.insertNode tempId labels properties))

def registerDirtyNode (nodeId : UInt64) (oldProperties newProperties : PropertyMap) : UnitOfWork :=
  uow.push (.updateNode nodeId oldProperties newProperties)

def registerDeletedNode (nodeId : UInt64) (oldLabels : List String) (oldProperties : PropertyMap) : UnitOfWork :=
  uow.push (.deleteNode nodeId oldLabels oldProperties)

def registerNewEdge (sourceId targetId : UInt64) (edgeType : String) (properties : PropertyMap) :
    UInt64 × UnitOfWork :=
  let tempId := uow.nextTempId
  (tempId, push { uow with nextTempId := uow.nextTempId + 1 }
    (.insertEdge tempId sourceId targetId edgeType properties))

def registerDeletedEdge (edgeId sourceId targetId : UInt64) (edgeType : String) (oldProperties : PropertyMap) :
    UnitOfWork :=
  uow.push (.deleteEdge edgeId sourceId targetId edgeType oldProperties)

def checkpoint (arena : QueryAstArena) : CheckpointState :=
  ⟨arena.len, uow.mutations.length⟩

def rollbackTo (arena : QueryAstArena) (checkpoint : CheckpointState) : UnitOfWork × QueryAstArena :=
  (if checkpoint.mutationCount < uow.mutations.length then
      { uow with mutations := uow.mutations.take checkpoint.mutationCount }
    else uow,
    arena.rollbackTo checkpoint.arenaLen)

def clear : UnitOfWork := { uow with mutations := [] }

end UnitOfWork

structure Transaction where
  id : UInt64
  state : TransactionState
  initialCheckpoint : CheckpointState
  savepoints : List Savepoint

def Transaction.new (id : UInt64) (uow : UnitOfWork) (arena : QueryAstArena) : Transaction :=
  ⟨id, .active, uow.checkpoint arena, []⟩

def Transaction.isActive (tx : Transaction) : Bool := tx.state == .active

/-- A transaction with the unit of work and the arena that its methods are given. -/
structure TransactionScope where
  tx : Transaction
  uow : UnitOfWork
  arena : QueryAstArena

namespace TransactionScope

abbrev Outcome := Except String Unit × TransactionScope

def new (id : UInt64) (uow : UnitOfWork) (arena : QueryAstArena) : TransactionScope :=
  ⟨.new id uow arena, uow, arena⟩

variable (name : String)

def notFound : String := s!"Savepoint '{name}' not found in transaction"

variable (s : TransactionScope)

def savepoint : Outcome :=
  if !s.tx.isActive then (.error "Cannot create savepoint on inactive transaction", s)
  else
    let checkpoint := s.uow.checkpoint s.arena
    (.ok (), { s with tx.savepoints := s.tx.savepoints ++ [⟨name, checkpoint⟩] })

def rollbackToSavepoint : Outcome :=
  if !s.tx.isActive then (.error "Cannot rollback savepoint on inactive transaction", s)
  else
    match rposition (fun sp => sp.name == name) s.tx.savepoints with
    | none => (.error (notFound name), s)
    | some pos =>
      let sp := s.tx.savepoints.get pos
      let (uow, arena) := s.uow.rollbackTo s.arena sp.checkpoint
      (.ok (), { tx := { s.tx with savepoints := s.tx.savepoints.take (pos + 1) }, uow, arena })

def releaseSavepoint : Outcome :=
  if !s.tx.isActive then (.error "Cannot release savepoint on inactive transaction", s)
  else
    match rposition (fun sp => sp.name == name) s.tx.savepoints with
    | none => (.error (notFound name), s)
    | some pos => (.ok (), { s with tx.savepoints := s.tx.savepoints.eraseIdx pos })

def commit : Outcome :=
  if !s.tx.isActive then (.error "Cannot commit inactive transaction", s)
  else (.ok (), { s with tx.state := .committed, tx.savepoints := [], uow := s.uow.clear })

def rollback : Outcome :=
  if !s.tx.isActive then (.error "Cannot rollback inactive transaction", s)
  else
    let (uow, arena) := s.uow.rollbackTo s.arena s.tx.initialCheckpoint
    (.ok (), { tx := { s.tx with state := .rolledBack, savepoints := [] }, uow, arena })

end TransactionScope

inductive TransactionCall
  | registerNewNode (labels : List String) (properties : PropertyMap)
  | registerDirtyNode (nodeId : UInt64) (oldProperties newProperties : PropertyMap)
  | registerDeletedNode (nodeId : UInt64) (oldLabels : List String) (oldProperties : PropertyMap)
  | registerNewEdge (sourceId targetId : UInt64) (edgeType : String) (properties : PropertyMap)
  | registerDeletedEdge (edgeId sourceId targetId : UInt64) (edgeType : String) (oldProperties : PropertyMap)
  | alloc (node : AstNode)
  | savepoint (name : String)
  | rollbackToSavepoint (name : String)
  | releaseSavepoint (name : String)
  | commit
  | rollback

variable (s : TransactionScope)

namespace TransactionCall

def run : TransactionCall → TransactionScope.Outcome
  | registerNewNode labels properties => (.ok (), { s with uow := (s.uow.registerNewNode labels properties).2 })
  | registerDirtyNode nodeId oldProperties newProperties =>
    (.ok (), { s with uow := s.uow.registerDirtyNode nodeId oldProperties newProperties })
  | registerDeletedNode nodeId oldLabels oldProperties =>
    (.ok (), { s with uow := s.uow.registerDeletedNode nodeId oldLabels oldProperties })
  | registerNewEdge sourceId targetId edgeType properties =>
    (.ok (), { s with uow := (s.uow.registerNewEdge sourceId targetId edgeType properties).2 })
  | registerDeletedEdge edgeId sourceId targetId edgeType oldProperties =>
    (.ok (), { s with uow := s.uow.registerDeletedEdge edgeId sourceId targetId edgeType oldProperties })
  | alloc node => (.ok (), { s with arena := (s.arena.alloc node).2 })
  | savepoint name => s.savepoint name
  | rollbackToSavepoint name => s.rollbackToSavepoint name
  | releaseSavepoint name => s.releaseSavepoint name
  | commit => s.commit
  | rollback => s.rollback

def isAppend : TransactionCall → Bool
  | savepoint _ | rollbackToSavepoint _ | releaseSavepoint _ | commit | rollback => false
  | _ => true

end TransactionCall

namespace TransactionScope

def after (calls : List TransactionCall) : TransactionScope :=
  calls.foldl (fun s call => (call.run s).2) s

end TransactionScope

end Voyager
