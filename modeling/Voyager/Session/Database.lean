import Voyager.Emit.Shared
import Voyager.Session.Bulk

/-! What a graph database does with a batched `MERGE`: an absent property is null, and so is a key that a
row does not have. -/

namespace Voyager

open Lib

structure DbNode (D : Type) where
  labels : List String
  props : String → Option D

abbrev Graph (D : Type) := List (DbNode D)

inductive DbError
  | unsupported
  | nullKey

namespace DbNode

variable {D : Type}

def assign (n : DbNode D) (name : String) (value : Option D) : DbNode D :=
  { n with props := Function.update n.props name value }

def matches_ [DecidableEq D] (n : DbNode D) (label : String) (entries : List (String × D)) : Bool :=
  label ∈ n.labels && entries.all fun e => n.props e.1 = some e.2

end DbNode

section

variable {D : Type} [DecidableEq D] (arena : QueryAstArena)

def found (h : NodeHandle) : Except DbError AstNode :=
  match arena.nodes[h]? with
  | some node => .ok node
  | none => .error .unsupported

structure Scope (D : Type) where
  rowAlias : String
  row : Record D
  nodeVar : String

variable (scope : Scope D)

def property (n : DbNode D) (h : NodeHandle) : Except DbError (Option D) := do
  match ← found arena h with
  | .propertyAccess target name =>
    match ← found arena target with
    | .identifier ident =>
      if ident = scope.rowAlias then pure (scope.row.get? name).join
      else if ident = scope.nodeVar then pure (n.props name)
      else throw .unsupported
    | _ => throw .unsupported
  | _ => throw .unsupported

def setProperty (n : DbNode D) (item : NodeHandle) : Except DbError (DbNode D) := do
  match ← found arena item with
  | .setItem target value false =>
    match ← found arena target with
    | .propertyAccess owner name =>
      match ← found arena owner with
      | .identifier ident =>
        if ident = scope.nodeVar then pure (n.assign name (← property arena scope n value)) else throw .unsupported
      | _ => throw .unsupported
    | _ => throw .unsupported
  | _ => throw .unsupported

def keyEntry (h : NodeHandle) : Except DbError (String × D) :=
  match patternEntry arena h with
  | .ok (some (name, value)) => do
    match ← property arena scope ⟨[], fun _ => none⟩ value with
    | some v => pure (name, v)
    | none => throw .nullKey
  | _ => .error .unsupported

def mergeNode (rowAlias : String) (h : NodeHandle) (g : Graph D) (row : Record D) : Except DbError (Graph D) := do
  match ← found arena h with
  | .mergeClause path onCreateSet onMatchSet =>
    match ← found arena path with
    | .nodePattern (some nodeVar) (some (.label label)) predicates =>
      let scope : Scope D := ⟨rowAlias, row, nodeVar⟩
      let entries ← predicates.mapM (keyEntry arena scope)
      if g.any (·.matches_ label entries) then
        g.mapM fun n =>
          if n.matches_ label entries then onMatchSet.foldlM (setProperty arena scope) n else pure n
      else
        let created ← onCreateSet.foldlM (setProperty arena scope)
          (entries.foldl (fun n e => n.assign e.1 (some e.2)) ⟨[label], fun _ => none⟩)
        pure (g ++ [created])
    | _ => throw .unsupported
  | _ => throw .unsupported

def runStatement (root : NodeHandle) (batch : List (Record D)) (g : Graph D) : Except DbError (Graph D) := do
  match ← found arena root with
  | .queryStatement _ none [unwind] [] [] [] [merge] none =>
    match ← found arena unwind with
    | .unwindClause _ rowAlias => batch.foldlM (mergeNode arena rowAlias merge) g
    | _ => throw .unsupported
  | _ => throw .unsupported

end

section

variable {D : Type} [DecidableEq D]

def runBulk (plan : BulkIngestionPlan D) (g : Graph D) : Except DbError (Graph D) :=
  plan.batches.foldlM (fun g batch => runStatement plan.statement.2 plan.statement.1 batch g) g

omit [DecidableEq D] in
def DbNode.assignAll (properties : List String) (row : Record D) (n : DbNode D) : DbNode D :=
  { n with props := fun name => if name ∈ properties then (row.get? name).join else n.props name }

def mergeRow (label keyField : String) (properties : List String) (g : Graph D) (row : Record D) :
    Except DbError (Graph D) :=
  match (row.get? keyField).join with
  | none => .error .nullKey
  | some key =>
    if g.any (·.matches_ label [(keyField, key)]) then
      .ok (g.map fun n => if n.matches_ label [(keyField, key)] then n.assignAll properties row else n)
    else
      .ok (g ++ [DbNode.assignAll properties row ⟨[label], Function.update (fun _ => none) keyField (some key)⟩])

end

end Voyager
