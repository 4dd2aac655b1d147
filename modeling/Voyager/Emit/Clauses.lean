import Voyager.Emit.Shared

namespace Voyager

def AggregationFunc.opening : AggregationFunc → String
  | .count => "COUNT("
  | .countDistinct => "COUNT(DISTINCT "
  | .sum => "SUM("
  | .avg => "AVG("
  | .min => "MIN("
  | .max => "MAX("
  | .collect => "COLLECT("

section

variable (w : Wording) (arena : QueryAstArena) (c : Callees)

def emitProjectionItem (proj : ProjectionItem) : EmitM Unit := do
  pushStr (proj.aggregation.elim "" AggregationFunc.opening)
  c.expression proj.expression false
  pushStr (proj.aggregation.elim "" fun _ => ")")
  pushStr (proj.aliasName.elim "" (" AS " ++ ·))

def emitOrderBy (orderBy : List (NodeHandle × Bool)) : EmitM Unit :=
  if orderBy.isEmpty then pure () else do
    pushStr " ORDER BY "
    separated ", "
      (fun (expr, isAsc) => do
        c.expression expr false
        pushStr (if isAsc then " ASC" else " DESC"))
      orderBy

def emitPaging (skip limit : Option ℕ) : EmitM Unit := do
  pushStr (skip.elim "" fun s => w.skip ++ toString s)
  pushStr (limit.elim "" fun l => " LIMIT " ++ toString l)

def emitReturn (projections : List ProjectionItem) (distinct : Bool) (orderBy : List (NodeHandle × Bool))
    (skip limit : Option ℕ) : EmitM Unit := do
  pushStr (" RETURN " ++ if distinct then "DISTINCT " else "")
  separated ", " (emitProjectionItem c) projections
  emitOrderBy c orderBy
  emitPaging w skip limit

variable (h : NodeHandle)

def emitWith : EmitM Unit := do
  match ← node arena h with
  | .withClause distinct projections orderBy skip limit whereClause =>
    pushStr ("WITH " ++ if distinct then "DISTINCT " else "")
    separated ", " (emitProjectionItem c) projections
    whereClause.forM (emitWhere arena c)
    emitOrderBy c orderBy
    emitPaging w skip limit
  | other => violation "Expected WithClause, got " other

def emitSetItem : EmitM Unit := do
  match ← node arena h with
  | .setItem target value isMerge =>
    c.expression target false
    pushStr (if isMerge then " += " else " = ")
    c.expression value false
  | other => violation "Expected SetItem, got " other

def emitSetList (keyword : String) (items : List NodeHandle) : EmitM Unit :=
  if items.isEmpty then pure () else do
    pushStr keyword
    separated ", " (emitSetItem arena c) items

def emitCreate : EmitM Unit := do
  match ← node arena h with
  | .createClause paths =>
    pushStr w.create
    separated ", " c.path paths
  | other => violation "Expected CreateClause, got " other

def emitSet : EmitM Unit := do
  match ← node arena h with
  | .setClause items =>
    pushStr "SET "
    separated ", " (emitSetItem arena c) items
  | other => violation "Expected SetClause, got " other

def emitRemove : EmitM Unit := do
  match ← node arena h with
  | .removeClause items =>
    pushStr "REMOVE "
    separated ", " (c.expression · false) items
  | other => violation "Expected RemoveClause, got " other

def emitUnwind : EmitM Unit := do
  match ← node arena h with
  | .unwindClause expression aliasName =>
    pushStr "UNWIND "
    c.expression expression false
    pushStr (" AS " ++ aliasName)
  | other => violation "Expected UnwindClause, got " other

def emitMatch : EmitM Unit := do
  match ← node arena h with
  | .matchClause optional paths whereClause => emitMatchClause arena c optional paths whereClause
  | _ => pure ()

def emitMutation (emitMerge emitDelete : NodeHandle → EmitM Unit) (h : NodeHandle) : EmitM Unit := do
  match ← node arena h with
  | .createClause .. => emitCreate w arena c h
  | .mergeClause .. => emitMerge h
  | .setClause .. => emitSet arena c h
  | .deleteClause .. => emitDelete h
  | .removeClause .. => emitRemove arena c h
  | other => violation w.unsupportedMutation other

def emitReturnClause (returnClause : Option NodeHandle) : EmitM (List ColumnMeta) :=
  match returnClause with
  | none => pure []
  | some h => do
    match ← node arena h with
    | .returnClause distinct projections orderBy skip limit =>
      emitReturn w c projections distinct orderBy skip limit
      pure (ColumnMeta.fromProjections arena projections)
    | _ => pure []

def emitCall (ns : Option String) (procedure : String) (arguments : List NodeHandle)
    (yieldItems : List String) : EmitM Unit := do
  pushStr ("CALL " ++ ns.elim "" (· ++ ".") ++ procedure ++ "(")
  separated ", " (c.expression · false) arguments
  pushStr ")"
  pushStr (if yieldItems.isEmpty then "" else " YIELD " ++ ", ".intercalate yieldItems)

end

def ExecutionMode.keyword : ExecutionMode → String
  | .normal => ""
  | .explain => "EXPLAIN "
  | .profile | .explainAndProfile => "PROFILE "

variable (mode : ExecutionMode)

def emitExecutionMode : EmitM Unit :=
  modify fun e =>
    { e with buffer := e.buffer ++ if e.ignoreExecutionMode then "" else mode.keyword }

def Emitter.clear (e : Emitter) : Emitter :=
  { e with buffer := "", parameters := ∅, paramCounter := 0, written := [] }

def Emitter.finish (columns : List ColumnMeta) : EmitM CompiledQuery :=
  modifyGet fun e =>
    (⟨e.buffer, e.parameters, if e.ignoreExecutionMode then .normal else mode, columns⟩,
      { e with buffer := "", parameters := ∅ })

end Voyager
