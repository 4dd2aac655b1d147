import Mathlib.Data.List.AList
import Mathlib.Tactic

/-! The query AST: node kinds and the arena that stores them. -/

namespace Voyager

/-- An index into the arena. The source's handles are 32-bit, the greatest one null: they agree with
these in every arena of fewer than `2 ^ 32` nodes, the most that it can name. -/
abbrev NodeHandle := ℕ

def NodeHandle.null : NodeHandle := 2 ^ 32 - 1

variable (h : NodeHandle)

def NodeHandle.isNull : Bool := h == NodeHandle.null

inductive Direction
  | outgoing | incoming | undirected
deriving DecidableEq, Repr

inductive PathMode
  | none | walk | trail | simple | acyclic
deriving DecidableEq, Repr

def PathMode.asStr : PathMode → String
  | .none => ""
  | .walk => "WALK"
  | .trail => "TRAIL"
  | .simple => "SIMPLE"
  | .acyclic => "ACYCLIC"

inductive UnaryOp
  | not | neg | isNull | isNotNull
deriving DecidableEq, Repr

inductive BinaryOp
  | eq | neq | lt | lte | gt | gte | in | notIn | contains | startsWith | endsWith | regexMatch
  | and | or | xor | add | concat | sub | mul | div | mod
deriving DecidableEq, Repr

def BinaryOp.display : BinaryOp → String
  | .eq => "="
  | .neq => "!="
  | .lt => "<"
  | .lte => "<="
  | .gt => ">"
  | .gte => ">="
  | .in => "IN"
  | .notIn => "NOT IN"
  | .contains => "CONTAINS"
  | .startsWith => "STARTS WITH"
  | .endsWith => "ENDS WITH"
  | .regexMatch => "=~"
  | .and => "AND"
  | .or => "OR"
  | .xor => "XOR"
  | .add => "+"
  | .concat => "||"
  | .sub => "-"
  | .mul => "*"
  | .div => "/"
  | .mod => "%"

/-- A literal. A 64-bit float is kept as its bit pattern. -/
inductive LiteralValue
  | null
  | bool (b : Bool)
  | int64 (i : ℤ)
  | float64 (bits : UInt64)
  | string (s : String)
  | parameterRef (p : String)
  | list (items : List LiteralValue)
  | map (entries : List (String × LiteralValue))

abbrev Parameters := AList (fun _ : String => LiteralValue)

inductive AggregationFunc
  | count | countDistinct | sum | avg | min | max | collect
deriving DecidableEq, Repr

inductive ExecutionMode
  | normal | explain | profile | explainAndProfile
deriving DecidableEq, Repr

structure ProjectionItem where
  expression : NodeHandle
  aliasName : Option String
  aggregation : Option AggregationFunc

inductive LabelExpression
  | label (name : String)
  | and (left right : LabelExpression)
  | or (left right : LabelExpression)
  | not (inner : LabelExpression)
  | wildcard
deriving DecidableEq, Repr

namespace LabelExpression

def isSimpleConjunction : LabelExpression → Bool
  | label _ => true
  | and l r => l.isSimpleConjunction && r.isSimpleConjunction
  | _ => false

def isSimpleDisjunction : LabelExpression → Bool
  | label _ => true
  | or l r => l.isSimpleDisjunction && r.isSimpleDisjunction
  | _ => false

def collectConjunctionLabels : LabelExpression → List String
  | label s => [s]
  | and l r => l.collectConjunctionLabels ++ r.collectConjunctionLabels
  | _ => []

def collectDisjunctionLabels : LabelExpression → List String
  | label s => [s]
  | or l r => l.collectDisjunctionLabels ++ r.collectDisjunctionLabels
  | _ => []

def collectLabelsInto : LabelExpression → List String → List String
  | label s, acc => if acc.contains s then acc else acc ++ [s]
  | and l r, acc | or l r, acc => r.collectLabelsInto (l.collectLabelsInto acc)
  | not inner, acc => inner.collectLabelsInto acc
  | wildcard, acc => acc

def collectLabels (e : LabelExpression) : List String := e.collectLabelsInto []

def toConjunctionLabels (e : LabelExpression) : Option (List String) :=
  if e.isSimpleConjunction then some e.collectConjunctionLabels else none

def toDisjunctionLabels (e : LabelExpression) : Option (List String) :=
  if e.isSimpleDisjunction then some e.collectDisjunctionLabels else none

def isOr : LabelExpression → Bool
  | or _ _ => true
  | _ => false

end LabelExpression

inductive AstNode
  | nodePattern (var : Option String) (labelExpression : Option LabelExpression)
      (predicates : List NodeHandle)
  | edgePattern (var : Option String) (labelExpression : Option LabelExpression)
      (direction : Direction) (minHops maxHops : Option ℕ) (predicates : List NodeHandle)
      (targetNode : NodeHandle)
  | pathChain (pathVariable : Option String) (pathMode : PathMode) (startNode : NodeHandle)
      (edges : List NodeHandle)
  | binaryExpression (left : NodeHandle) (op : BinaryOp) (right : NodeHandle)
  | unaryExpression (op : UnaryOp) (operand : NodeHandle)
  | functionCall (name : String) (arguments : List NodeHandle)
  | caseExpression (operand : Option NodeHandle) (whenThenBranches : List (NodeHandle × NodeHandle))
      (elseBranch : Option NodeHandle)
  | listComprehension (var : String) (listExpression : NodeHandle)
      (whereFilter mapExpression : Option NodeHandle)
  | patternComprehension (path : NodeHandle) (whereFilter : Option NodeHandle)
      (projection : NodeHandle)
  | existsSubquery (subquery : NodeHandle)
  | countSubquery (subquery : NodeHandle)
  | listLiteral (items : List NodeHandle)
  | propertyAccess (target : NodeHandle) (property : String)
  | literal (value : LiteralValue)
  | identifier (name : String)
  | parameter (name : String)
  | unwindClause (expression : NodeHandle) (aliasName : String)
  | whereClause (rootPredicate : NodeHandle)
  | matchClause (optional : Bool) (paths : List NodeHandle) (whereClause : Option NodeHandle)
  | returnClause (distinct : Bool) (projections : List ProjectionItem)
      (orderBy : List (NodeHandle × Bool)) (skip limit : Option ℕ)
  | procedureCall (executionMode : ExecutionMode) (ns : Option String) (procedure : String)
      (arguments : List NodeHandle) (yieldItems : List String)
  | createClause (paths : List NodeHandle)
  | mergeClause (path : NodeHandle) (onCreateSet onMatchSet : List NodeHandle)
  | setClause (items : List NodeHandle)
  | setItem (target value : NodeHandle) (isMerge : Bool)
  | deleteClause (detach : Bool) (targets : List NodeHandle)
  | removeClause (items : List NodeHandle)
  | loadCsvClause (url : NodeHandle) (withHeaders : Bool) (aliasName : String)
  | withClause (distinct : Bool) (projections : List ProjectionItem)
      (orderBy : List (NodeHandle × Bool)) (skip limit : Option ℕ) (whereClause : Option NodeHandle)
  | letClause (var : String) (expression : NodeHandle)
  | filterClause (predicate : NodeHandle)
  | queryStatement (executionMode : ExecutionMode) (loadCsv : Option NodeHandle)
      (unwinds matches_ linearClauses withClauses mutations : List NodeHandle)
      (returnClause : Option NodeHandle)

/-- The errors of the modelled functions. A message that quotes the debug text of a node carries the
node itself; `outOfFuel` stands for a recursion of the source that has not returned. -/
inductive Error
  | invalidNodeHandle (h : NodeHandle)
  | astInvariantViolation (message : String) (got : AstNode)
  | unsupportedFeature (dialect feature : String)
  | outOfFuel

structure QueryAstArena where
  nodes : List AstNode

namespace QueryAstArena

variable (arena : QueryAstArena)

def get : Except Error AstNode :=
  match arena.nodes[h]? with
  | some node => .ok node
  | none => .error (.invalidNodeHandle h)

def len : ℕ := arena.nodes.length

def alloc (node : AstNode) : NodeHandle × QueryAstArena :=
  (arena.len, ⟨arena.nodes ++ [node]⟩)

def checkpoint : ℕ := arena.nodes.length

def rollbackTo (checkpoint : ℕ) : QueryAstArena :=
  if checkpoint < arena.nodes.length then ⟨arena.nodes.take checkpoint⟩ else arena

def modify (f : AstNode → AstNode) : Except Error QueryAstArena :=
  match arena.nodes[h]? with
  | some node => .ok ⟨arena.nodes.set h (f node)⟩
  | none => .error (.invalidNodeHandle h)

def Grows (a b : QueryAstArena) : Prop := a.nodes <+: b.nodes

lemma Grows.refl (a : QueryAstArena) : a.Grows a := List.prefix_refl _

lemma Grows.trans {a b c : QueryAstArena} (hab : a.Grows b) (hbc : b.Grows c) : a.Grows c :=
  List.IsPrefix.trans hab hbc

lemma Grows.node {a b : QueryAstArena} (hab : a.Grows b) {h : NodeHandle} {n : AstNode}
    (hn : a.nodes[h]? = some n) : b.nodes[h]? = some n := by
  obtain ⟨more, hmore⟩ := hab
  rw [← hmore, List.getElem?_append_left (List.getElem?_eq_some_iff.mp hn).1, hn]

lemma grows_alloc (n : AstNode) : arena.Grows (arena.alloc n).2 :=
  List.prefix_append _ _

lemma alloc_node (n : AstNode) : (arena.alloc n).2.nodes[(arena.alloc n).1]? = some n :=
  List.getElem?_concat_length

lemma get_eq_ok {arena : QueryAstArena} {h : NodeHandle} {node : AstNode} :
    arena.get h = .ok node ↔ arena.nodes[h]? = some node := by
  unfold get
  split <;> simp_all

end QueryAstArena

end Voyager
