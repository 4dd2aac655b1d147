import Voyager.Ast

/-! What the dialect emitters share: their state, the compiled query they return and the label texts. -/

namespace Voyager

inductive ColumnName
  | text (s : String)
  | literal (lit : LiteralValue)
  | property (target : ColumnName) (property : String)
  | call (name : String)
  | column (idx : ℕ)
  | aggregate (func : AggregationFunc) (base : ColumnName)

structure ColumnMeta where
  name : ColumnName
  aliasName : Option String

structure CompiledQuery where
  statement : String
  parameters : Parameters
  executionMode : ExecutionMode
  columns : List ColumnMeta

def resolveExpressionName (arena : QueryAstArena) : ℕ → NodeHandle → Option ColumnName
  | 0, _ => none
  | fuel + 1, h =>
    match arena.nodes[h]? with
    | some (.identifier id) => some (.text id)
    | some (.nodePattern var _ _) => var.map .text
    | some (.edgePattern var _ _ _ _ _ _) => var.map .text
    | some (.propertyAccess target property) =>
      match resolveExpressionName arena fuel target with
      | some name => if property = "" then some name else some (.property name property)
      | none => if property = "" then none else some (.text property)
    | some (.parameter param) => some (.text param)
    | some (.literal lit) => some (.literal lit)
    | some (.functionCall name _) => some (.call name)
    | _ => none

variable (arena : QueryAstArena)

def ColumnMeta.fromProjections (projections : List ProjectionItem) : List ColumnMeta :=
  projections.mapIdx fun idx proj =>
    match proj.aliasName with
    | some a => ⟨.text a, some a⟩
    | none =>
      let base := (resolveExpressionName arena (arena.len + 1) proj.expression).getD (.column idx)
      ⟨match proj.aggregation with
        | some func => .aggregate func base
        | none => base, none⟩

/-- The state of an emitter. `written` is not in the source: it records each placeholder as it is
written, with the literal it stands for. -/
structure Emitter where
  paramCounter : ℕ
  parameters : Parameters
  buffer : String
  ignoreExecutionMode : Bool
  written : List (String × LiteralValue)

namespace Emitter

def new : Emitter := ⟨0, ∅, "", false, []⟩

def withoutExecutionMode (e : Emitter) : Emitter := { e with ignoreExecutionMode := true }

end Emitter

abbrev EmitM := StateT Emitter (Except Error)

def pushStr (s : String) : EmitM Unit := modify fun e => { e with buffer := e.buffer ++ s }

def node (h : NodeHandle) : EmitM AstNode := liftM (arena.get h)

def violation (message : String) (got : AstNode) : EmitM Unit :=
  throw (.astInvariantViolation message got)

def placeholderName (n : ℕ) : String := "p" ++ toString n

def Emitter.writeLiteral (e : Emitter) (lit : LiteralValue) : Emitter :=
  { e with
    paramCounter := e.paramCounter + 1
    parameters := e.parameters.insert (placeholderName e.paramCounter) lit
    buffer := e.buffer ++ ("$" ++ placeholderName e.paramCounter)
    written := e.written ++ [(placeholderName e.paramCounter, lit)] }

def pushLiteral (lit : LiteralValue) : EmitM Unit := modify fun e => e.writeLiteral lit

def separated {α : Type} (sep : String) (body : α → EmitM Unit) : List α → EmitM Unit
  | [] => pure ()
  | x :: xs => do
    body x
    xs.forM fun y => do
      pushStr sep
      body y

def spaced (body : NodeHandle → EmitM Unit) : Bool → List NodeHandle → EmitM Bool
  | hasEmitted, [] => pure hasEmitted
  | hasEmitted, h :: hs => do
    if hasEmitted then pushStr " "
    body h
    spaced body true hs

def formatCypherLabelExpr : LabelExpression → String
  | .label s => s
  | .wildcard => "%"
  | .not inner =>
    match inner with
    | .and _ _ | .or _ _ => "!" ++ "(" ++ formatCypherLabelExpr inner ++ ")"
    | _ => "!" ++ formatCypherLabelExpr inner
  | .and left right =>
    let l := formatCypherLabelExpr left
    let r := formatCypherLabelExpr right
    (if left.isOr then "(" ++ l ++ ")" else l) ++ "&" ++ (if right.isOr then "(" ++ r ++ ")" else r)
  | .or left right => formatCypherLabelExpr left ++ "|" ++ formatCypherLabelExpr right

def formatComplexLabels (e : LabelExpression) : String :=
  ":" ++ (if e.isOr then "(" ++ formatCypherLabelExpr e ++ ")" else formatCypherLabelExpr e)

def emitCypherNodeLabels : Option LabelExpression → String
  | none => ""
  | some e =>
    match e.toConjunctionLabels with
    | some labels => String.join (labels.map fun l => ":" ++ l)
    | none => formatComplexLabels e

def emitGqlNodeLabels : Option LabelExpression → String
  | none => ""
  | some e =>
    match e.toConjunctionLabels with
    | some labels => ":" ++ "&".intercalate labels
    | none => formatComplexLabels e

def emitEdgeLabels : Option LabelExpression → String
  | none => ""
  | some e =>
    ":" ++ match e.toDisjunctionLabels with
      | some types => "|".intercalate types
      | none => formatCypherLabelExpr e

def emitCypherEdgeLabels : Option LabelExpression → String := emitEdgeLabels

def emitGqlEdgeLabels : Option LabelExpression → String := emitEdgeLabels

end Voyager
