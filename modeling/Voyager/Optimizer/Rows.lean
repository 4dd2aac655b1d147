import Voyager.Lib.Pipeline
import Voyager.Optimizer.PruneBindings
import Voyager.Optimizer.Reading

namespace Voyager

open AstOptimizer (matchesOf patternNodes)

def Row (V : Type) := String → Option V

instance (V : Type) : Preorder (Row V) where
  le r r' := ∀ x v, r x = some v → r' x = some v
  le_refl _ _ _ h := h
  le_trans _ _ _ hab hbc x v h := hbc x v (hab x v h)

def PatternOf (arena : QueryAstArena) (clause k : NodeHandle) : Prop :=
  ∃ optional paths condition, arena.nodes[clause]? = some (.matchClause optional paths condition) ∧
    ∃ path ∈ paths, k ∈ patternNodes arena path ∧
      ∃ var labels predicates, arena.nodes[k]? = some (.nodePattern var labels predicates)

def PatternPredicate (arena : QueryAstArena) (clause pred : NodeHandle) : Prop :=
  ∃ k, PatternOf arena clause k ∧ ∃ var labels predicates,
    arena.nodes[k]? = some (.nodePattern var labels predicates) ∧ pred ∈ predicates

/-- A graph, and what the operators and functions of expressions do on it. The values of CASE, comprehensions and
subqueries and the ways to match a path are left open: they may depend on all nodes that are read for them. -/
structure Interpretation (V : Type) where
  null : V
  literal : LiteralValue → V
  parameter : String → V
  property : V → String → V
  unary : UnaryOp → V → V
  binary : BinaryOp → V → V → V
  call : String → List V → V
  list : List V → V
  isTrue : V → Prop
  block : QueryAstArena → NodeHandle → Row V → Option V
  candidates : QueryAstArena → List NodeHandle → Row V → Multiset (Row V)
  absent : QueryAstArena → List NodeHandle → Row V → Row V
  isTrue_and : ∀ v w, isTrue (binary .and v w) ↔ isTrue v ∧ isTrue w
  isTrue_true : isTrue (literal (.bool true))
  le_candidates : ∀ arena paths r, ∀ r' ∈ candidates arena paths r, r ≤ r'
  le_absent : ∀ arena paths r, r ≤ absent arena paths r
  binds : ∀ arena paths r, ∀ r' ∈ candidates arena paths r, ∀ path ∈ paths, ∀ k ∈ patternNodes arena path,
    ∀ x labels predicates, arena.nodes[k]? = some (.nodePattern (some x) labels predicates) → (r' x).isSome
  block_congr : ∀ a b sites h, Closed a sites → SameView sites a b → (.expression, h) ∈ sites → block a h = block b h
  candidates_congr : ∀ a b sites paths, Closed a sites → SameView sites a b →
    (∀ path ∈ paths, (.skeleton, path) ∈ sites) → candidates a paths = candidates b paths
  absent_congr : ∀ a b sites paths, Closed a sites → SameView sites a b →
    (∀ path ∈ paths, (.skeleton, path) ∈ sites) → absent a paths = absent b paths

def AstNode.isBlock : AstNode → Bool
  | .caseExpression .. | .listComprehension .. | .patternComprehension .. | .existsSubquery _ | .countSubquery _ => true
  | _ => false

namespace Interpretation

variable {V : Type} (I : Interpretation V) (arena : QueryAstArena)

inductive Denotes (r : Row V) : NodeHandle → V → Prop
  | literal {h lit} : arena.nodes[h]? = some (.literal lit) → Denotes r h (I.literal lit)
  | parameter {h p} : arena.nodes[h]? = some (.parameter p) → Denotes r h (I.parameter p)
  | identifier {h x} : arena.nodes[h]? = some (.identifier x) → Denotes r h ((r x).getD I.null)
  | nodePattern {h x labels predicates} :
      arena.nodes[h]? = some (.nodePattern (some x) labels predicates) → Denotes r h ((r x).getD I.null)
  | edgePattern {h x labels direction minHops maxHops predicates targetNode} :
      arena.nodes[h]? = some (.edgePattern (some x) labels direction minHops maxHops predicates targetNode) →
      Denotes r h ((r x).getD I.null)
  | property {h target p v} :
      arena.nodes[h]? = some (.propertyAccess target p) → Denotes r target v → Denotes r h (I.property v p)
  | unary {h op operand v} :
      arena.nodes[h]? = some (.unaryExpression op operand) → Denotes r operand v → Denotes r h (I.unary op v)
  | binary {h left op right v w} : arena.nodes[h]? = some (.binaryExpression left op right) →
      Denotes r left v → Denotes r right w → Denotes r h (I.binary op v w)
  | call {h name arguments vs} : arena.nodes[h]? = some (.functionCall name arguments) →
      vs.length = arguments.length → (∀ p ∈ arguments.zip vs, Denotes r p.1 p.2) → Denotes r h (I.call name vs)
  | list {h items vs} : arena.nodes[h]? = some (.listLiteral items) →
      vs.length = items.length → (∀ p ∈ items.zip vs, Denotes r p.1 p.2) → Denotes r h (I.list vs)
  | condition {h rootPredicate v} :
      arena.nodes[h]? = some (.whereClause rootPredicate) → Denotes r rootPredicate v → Denotes r h v
  | block {h n v} : arena.nodes[h]? = some n → n.isBlock = true → I.block arena h r = some v → Denotes r h v

def Holds (r : Row V) (h : NodeHandle) : Prop := ∃ v, I.Denotes arena r h v ∧ I.isTrue v

variable (h : NodeHandle)

def stage : Lib.Stage (Row V) :=
  match arena.nodes[h]? with
  | some (.matchClause optional paths _) =>
    ⟨optional, I.candidates arena paths, I.absent arena paths, I.le_candidates arena paths, I.le_absent arena paths⟩
  | _ => ⟨false, fun r => {r}, id, by simp, fun r => le_refl r⟩

def patternsOf (r : Row V) : Prop := ∀ pred, PatternPredicate arena h pred → I.Holds arena r pred

def whereOf (r : Row V) : Prop :=
  match arena.nodes[h]? with
  | some (.matchClause _ _ (some condition)) => I.Holds arena r condition
  | _ => True

def pipeline (clauses : List NodeHandle) (condition : NodeHandle → Row V → Prop) : Lib.Pipeline (Row V) :=
  clauses.map fun h => (I.stage arena h, fun r => I.patternsOf arena h r ∧ condition h r)

/-- The bag of rows that the MATCH clauses of the statement produce from the given ones. -/
noncomputable def rows (root : NodeHandle) (bag : Multiset (Row V)) : Multiset (Row V) :=
  match arena.nodes[root]? with
  | some n => (I.pipeline arena (matchesOf n) (I.whereOf arena)).run bag
  | none => bag

end Interpretation

end Voyager
