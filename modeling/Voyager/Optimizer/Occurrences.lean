import Voyager.Optimizer.Prune

/-! Where variable names stand in a statement, and which of these places the used-variable analysis reads. -/

namespace Voyager

open AstOptimizer (present)

namespace AstNode

def names : AstNode → List String
  | nodePattern var _ _ => var.toList
  | edgePattern var _ _ _ _ _ _ => var.toList
  | pathChain pathVariable _ _ _ => pathVariable.toList
  | listComprehension var _ _ _ => [var]
  | identifier name => [name]
  | unwindClause _ aliasName => [aliasName]
  | loadCsvClause _ _ aliasName => [aliasName]
  | letClause var _ => [var]
  | _ => []

def children : AstNode → List NodeHandle
  | nodePattern _ _ predicates => predicates
  | edgePattern _ _ _ _ _ predicates targetNode => predicates ++ present targetNode
  | pathChain _ _ startNode edges => present startNode ++ edges
  | binaryExpression left _ right => [left, right]
  | unaryExpression _ operand => [operand]
  | functionCall _ arguments => arguments
  | caseExpression operand branches elseBranch =>
    operand.toList ++ branches.flatMap (fun b => [b.1, b.2]) ++ elseBranch.toList
  | listComprehension _ listExpression whereFilter mapExpression =>
    listExpression :: whereFilter.toList ++ mapExpression.toList
  | patternComprehension path whereFilter projection => path :: whereFilter.toList ++ [projection]
  | existsSubquery subquery => [subquery]
  | countSubquery subquery => [subquery]
  | listLiteral items => items
  | propertyAccess target _ => [target]
  | literal _ | identifier _ | parameter _ => []
  | unwindClause expression _ => [expression]
  | whereClause rootPredicate => [rootPredicate]
  | matchClause _ paths condition => paths ++ condition.toList
  | returnClause _ projections orderBy _ _ => projections.map ProjectionItem.expression ++ orderBy.map Prod.fst
  | procedureCall _ _ _ arguments _ => arguments
  | createClause paths => paths
  | mergeClause path onCreateSet onMatchSet => path :: onCreateSet ++ onMatchSet
  | setClause items => items
  | setItem target value _ => [target, value]
  | deleteClause _ targets => targets
  | removeClause items => items
  | loadCsvClause url _ _ => [url]
  | withClause _ projections orderBy _ _ condition =>
    projections.map ProjectionItem.expression ++ orderBy.map Prod.fst ++ condition.toList
  | letClause _ expression => [expression]
  | filterClause predicate => [predicate]
  | queryStatement _ loadCsv unwinds matches_ linearClauses withClauses mutations returned =>
    loadCsv.toList ++ unwinds ++ matches_ ++ linearClauses ++ withClauses ++ mutations ++ returned.toList

end AstNode

def mentions (arena : QueryAstArena) : ℕ → NodeHandle → List String
  | 0, _ => []
  | depth + 1, h =>
    match arena.nodes[h]? with
    | none => []
    | some n => n.names ++ n.children.flatMap (mentions arena depth)

def OccursOnce (arena : QueryAstArena) (root : NodeHandle) (x : String) : Prop :=
  ∀ depth, (mentions arena depth root).count x ≤ 1

inductive Role
  | statement | loadCsv | unwind | linear | withClause | returnClause | matching | mutation | setItem
  | expression | matchPattern | writePattern
deriving DecidableEq

namespace Role

def reads : Role → AstNode → Bool
  | expression, .identifier _ => true
  | writePattern, .nodePattern .. => true
  | writePattern, .edgePattern .. => true
  | writePattern, .pathChain .. => true
  | loadCsv, .loadCsvClause .. => true
  | unwind, .unwindClause .. => true
  | linear, .letClause .. => true
  | _, _ => false

def each (role : Role) (hs : List NodeHandle) : List (Role × NodeHandle) := hs.map (role, ·)

def parts : Role → AstNode → List (Role × NodeHandle)
  | expression, n@(.propertyAccess ..) => each expression n.children
  | expression, n@(.binaryExpression ..) => each expression n.children
  | expression, n@(.unaryExpression ..) => each expression n.children
  | expression, n@(.functionCall ..) => each expression n.children
  | expression, n@(.caseExpression ..) => each expression n.children
  | expression, n@(.listComprehension ..) => each expression n.children
  | expression, .patternComprehension _ whereFilter projection => each expression (whereFilter.toList ++ [projection])
  | expression, n@(.existsSubquery _) => each expression n.children
  | expression, n@(.countSubquery _) => each expression n.children
  | expression, n@(.listLiteral _) => each expression n.children
  | expression, n@(.whereClause _) => each expression n.children
  | matchPattern, .nodePattern _ _ predicates => each expression predicates
  | matchPattern, .edgePattern _ _ _ _ _ predicates targetNode =>
    each expression predicates ++ each matchPattern (present targetNode)
  | matchPattern, .pathChain _ _ startNode edges => each matchPattern (present startNode ++ edges)
  | writePattern, .nodePattern _ _ predicates => each expression predicates
  | writePattern, .edgePattern _ _ _ _ _ predicates targetNode =>
    each expression predicates ++ each writePattern (present targetNode)
  | writePattern, .pathChain _ _ startNode edges => each writePattern (present startNode ++ edges)
  | loadCsv, .loadCsvClause url _ _ => each expression [url]
  | unwind, .unwindClause value _ => each expression [value]
  | linear, .letClause _ value => each expression [value]
  | linear, .filterClause predicate => each expression [predicate]
  | withClause, n@(.withClause ..) => each expression n.children
  | returnClause, n@(.returnClause ..) => each expression n.children
  | matching, .matchClause _ paths condition => each expression condition.toList ++ each matchPattern paths
  | setItem, .setItem target value _ => each expression [target, value]
  | mutation, .createClause paths => each writePattern paths
  | mutation, .mergeClause path onCreateSet onMatchSet =>
    each writePattern [path] ++ each setItem (onCreateSet ++ onMatchSet)
  | mutation, .setClause items => each setItem items
  | mutation, .deleteClause _ targets => each expression targets
  | mutation, .removeClause items => each expression items
  | statement, .queryStatement _ load unwinds matches_ linearClauses withClauses mutations returned =>
    each loadCsv load.toList ++ (each unwind unwinds ++ (each linear linearClauses ++
      (each withClause withClauses ++ (each returnClause returned.toList ++
        (each matching matches_ ++ each mutation mutations)))))
  | _, _ => []

end Role

inductive Inspected (arena : QueryAstArena) : Role → NodeHandle → String → Prop
  | name {role : Role} {h : NodeHandle} {n : AstNode} {x : String} :
      arena.nodes[h]? = some n → role.reads n = true → x ∈ n.names → Inspected arena role h x
  | part {role : Role} {h : NodeHandle} {n : AstNode} {p : Role × NodeHandle} {x : String} :
      arena.nodes[h]? = some n → p ∈ role.parts n → Inspected arena p.1 p.2 x → Inspected arena role h x

def InspectedIn (arena : QueryAstArena) (ps : List (Role × NodeHandle)) (x : String) : Prop :=
  ∃ p ∈ ps, Inspected arena p.1 p.2 x

section

variable {arena : QueryAstArena} {role : Role} {h : NodeHandle} {n : AstNode} {x : String}

lemma inspected_iff (hn : arena.nodes[h]? = some n) :
    Inspected arena role h x ↔ (role.reads n = true ∧ x ∈ n.names) ∨ InspectedIn arena (role.parts n) x := by
  constructor
  · rintro (⟨hm, hr, hx⟩ | ⟨hm, hp, hx⟩)
    · cases hn.symm.trans hm
      exact .inl ⟨hr, hx⟩
    · cases hn.symm.trans hm
      exact .inr ⟨_, hp, hx⟩
  · rintro (⟨hr, hx⟩ | ⟨p, hp, hx⟩)
    · exact .name hn hr hx
    · exact .part hn hp hx

@[simp] lemma inspectedIn_nil : InspectedIn arena [] x ↔ False := by
  simp [InspectedIn]

@[simp] lemma inspectedIn_append (ps qs : List (Role × NodeHandle)) :
    InspectedIn arena (ps ++ qs) x ↔ InspectedIn arena ps x ∨ InspectedIn arena qs x := by
  simp only [InspectedIn, List.mem_append, or_and_right, exists_or]

@[simp] lemma inspectedIn_each (hs : List NodeHandle) :
    InspectedIn arena (role.each hs) x ↔ ∃ h ∈ hs, Inspected arena role h x := by
  simp [InspectedIn, Role.each]

end

end Voyager
