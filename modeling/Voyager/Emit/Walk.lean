import Voyager.Emit.Shared
import Voyager.Lib.Numbering

/-! The order in which an emission meets the literals of an arena and the nested statements. -/

namespace Voyager

open Lib (Mark)

abbrev Event := Mark LiteralValue

structure Walks where
  expression : NodeHandle → List Event
  path : NodeHandle → List Event
  statement : NodeHandle → List Event

section

variable (arena : QueryAstArena) (k : Walks)

variable (h : NodeHandle)

def walkPatternPredicate : List Event :=
  match patternEntry arena h with
  | .ok (some (_, value)) => k.expression value
  | _ => k.expression h

def walkNodePattern : List Event :=
  match arena.nodes[h]? with
  | some (.nodePattern _ _ predicates) => predicates.flatMap (walkPatternPredicate arena k)
  | _ => []

def walkEdgePattern : List Event :=
  match arena.nodes[h]? with
  | some (.edgePattern _ _ _ _ _ predicates targetNode) =>
    predicates.flatMap (walkPatternPredicate arena k) ++ walkNodePattern arena k targetNode
  | _ => []

def walkPath : List Event :=
  match arena.nodes[h]? with
  | some (.nodePattern ..) => walkNodePattern arena k h
  | some (.pathChain _ _ startNode edges) =>
    walkNodePattern arena k startNode ++ edges.flatMap (walkEdgePattern arena k)
  | some (.matchClause _ paths _) => paths.flatMap k.path
  | some (.queryStatement _ _ _ matches_ _ _ _ _) => matches_.flatMap k.path
  | _ => []

def walkWhere : List Event :=
  match arena.nodes[h]? with
  | some (.whereClause rootPredicate) => k.expression rootPredicate
  | _ => []

def walkMatchClause (paths : List NodeHandle) (whereClause : Option NodeHandle) : List Event :=
  paths.flatMap k.path ++ whereClause.elim [] (walkWhere arena k)

def walkSubqueryBody : List Event :=
  match arena.nodes[h]? with
  | some (.nodePattern ..) | some (.pathChain ..) => k.path h
  | some (.matchClause _ paths whereClause) => walkMatchClause arena k paths whereClause
  | some (.queryStatement ..) => .reset :: k.statement h
  | some (.whereClause ..) => walkWhere arena k h
  | _ => k.expression h

def walkExpression : List Event :=
  match arena.nodes[h]? with
  | some (.propertyAccess target _) => k.expression target
  | some (.literal lit) => [.item lit]
  | some (.binaryExpression left _ right) => k.expression left ++ k.expression right
  | some (.unaryExpression _ operand) => k.expression operand
  | some (.functionCall _ arguments) => arguments.flatMap k.expression
  | some (.caseExpression operand branches elseBranch) =>
    operand.elim [] k.expression ++
      (branches.flatMap (fun b => k.expression b.1 ++ k.expression b.2) ++ elseBranch.elim [] k.expression)
  | some (.listComprehension _ listExpression whereFilter mapExpression) =>
    k.expression listExpression ++ (whereFilter.elim [] k.expression ++ mapExpression.elim [] k.expression)
  | some (.patternComprehension path whereFilter projection) =>
    k.path path ++ (whereFilter.elim [] k.expression ++ k.expression projection)
  | some (.existsSubquery subquery) => walkSubqueryBody arena k subquery
  | some (.countSubquery subquery) => walkSubqueryBody arena k subquery
  | some (.listLiteral items) => items.flatMap k.expression
  | _ => []

def walkProjections (projections : List ProjectionItem) : List Event :=
  projections.flatMap fun proj => k.expression proj.expression

def walkOrderBy (orderBy : List (NodeHandle × Bool)) : List Event :=
  orderBy.flatMap fun item => k.expression item.1

def walkSetItem : List Event :=
  match arena.nodes[h]? with
  | some (.setItem target value _) => k.expression target ++ k.expression value
  | _ => []

def walkMatch : List Event :=
  match arena.nodes[h]? with
  | some (.matchClause _ paths whereClause) => walkMatchClause arena k paths whereClause
  | _ => []

def walkLinear : List Event :=
  match arena.nodes[h]? with
  | some (.letClause _ expression) => k.expression expression
  | some (.filterClause predicate) => k.expression predicate
  | _ => []

def walkReturn : List Event :=
  match arena.nodes[h]? with
  | some (.returnClause _ projections orderBy _ _) => walkProjections k projections ++ walkOrderBy k orderBy
  | _ => []

def walkClause : List Event :=
  match arena.nodes[h]? with
  | some (.loadCsvClause url _ _) => k.expression url
  | some (.unwindClause expression _) => k.expression expression
  | some (.withClause _ projections orderBy _ _ whereClause) =>
    walkProjections k projections ++ (whereClause.elim [] (walkWhere arena k) ++ walkOrderBy k orderBy)
  | some (.createClause paths) => paths.flatMap k.path
  | some (.mergeClause path onCreateSet onMatchSet) =>
    k.path path ++ (onCreateSet.flatMap (walkSetItem arena k) ++ onMatchSet.flatMap (walkSetItem arena k))
  | some (.setClause items) => items.flatMap (walkSetItem arena k)
  | some (.deleteClause _ targets) => targets.flatMap k.expression
  | some (.removeClause items) => items.flatMap k.expression
  | _ => []

def walkStatement (loadsCsv : Bool) (root : NodeHandle) : List Event :=
  match arena.nodes[root]? with
  | some (.queryStatement _ loadCsv unwinds matches_ linearClauses withClauses mutations returnClause) =>
    (if loadsCsv then loadCsv.elim [] (walkClause arena k) else []) ++
      (unwinds.flatMap (walkClause arena k) ++ (matches_.flatMap (walkMatch arena k) ++
        (linearClauses.flatMap (walkLinear arena k) ++ (withClauses.flatMap (walkClause arena k) ++
          (mutations.flatMap (walkClause arena k) ++ returnClause.elim [] (walkReturn arena k))))))
  | some (.procedureCall _ _ _ arguments _) => arguments.flatMap k.expression
  | _ => []

end

def walks (loadsCsv : Bool) (arena : QueryAstArena) : ℕ → Walks
  | 0 => ⟨fun _ => [], fun _ => [], fun _ => []⟩
  | fuel + 1 =>
    { expression := walkExpression arena (walks loadsCsv arena fuel)
      path := walkPath arena (walks loadsCsv arena fuel)
      statement := walkStatement arena (walks loadsCsv arena fuel) loadsCsv }

end Voyager
