import Voyager.Builder.Calls

/-! What a call does to a builder: it adds to the clause that is open, or it closes that clause first. -/

namespace Voyager

open QueryAstArena List Option

lemma QueryAstArena.modify_cases (a : QueryAstArena) (h : NodeHandle) (f : AstNode → AstNode) :
    a.modify h f = .ok ⟨a.nodes.modify h f⟩ ∨ ∃ e, a.modify h f = .error e := by
  unfold modify
  cases hn : a.nodes[h]? with
  | none => exact .inr ⟨_, rfl⟩
  | some n => simp [modify_eq_set_getElem?, hn]

namespace QueryBuilder

open Relation

def Call.closes (b : QueryBuilder) : Call → Bool
  | unwind .. | unwindParam .. | loadCsv .. | callProcedure .. | match_ | optionalMatch | create | merge | delete _
  | detachDelete _ | removeProperty .. | with_ | withClause .. | return_ | let_ .. | filter_ _ => true
  | node .. | nodeExpr .. => b.pendingEdge.isNone && b.currentPathStart.isSome
  | importMatchPatterns .. => b.clauseMode.isNone
  | _ => false

inductive Move (b : QueryBuilder) : QueryBuilder → Prop
  | extend (nodes : List AstNode) : Move b { b with arena := ⟨b.arena.nodes ++ nodes⟩ }
  | settings (mode : ExecutionMode) (pathMode : PathMode) (pathVariable : Option String)
      (pending : Option PendingEdge) (orderBys : List (NodeHandle × Bool)) (isDistinct : Bool) (limit skip : Option ℕ) :
      Move b { b with
        executionMode := mode, currentPathMode := pathMode, currentPathVariable := pathVariable
        pendingEdge := pending, orderBys := orderBys, isDistinct := isDistinct, limitRows := limit, skipRows := skip }
  | project (items : List ProjectionItem) : Move b (b.selectItems items)
  | filter (predicate : NodeHandle) : Move b (b.whereExpr predicate)
  | onCreate (item : NodeHandle) : Move b { b with currentOnCreateSet := b.currentOnCreateSet ++ [item] }
  | onMatch (item : NodeHandle) : Move b { b with currentOnMatchSet := b.currentOnMatchSet ++ [item] }
  | assign (item : NodeHandle) : Move b { b with currentSetItems := b.currentSetItems ++ [item] }
  | rehop (edge : NodeHandle) (min max : ℕ) :
      Move b { b with arena := ⟨b.arena.nodes.modify edge (setHops min max)⟩ }
  | pattern : Move b b.pattern
  | node (var : Option String) (labels : Option LabelExpression)
      (hroom : b.pendingEdge.isSome ∨ b.currentPathStart = none) : Move b (b.nodePatternInternal var labels)

inductive Opening (b : QueryBuilder) : QueryBuilder → Prop
  | move {b' : QueryBuilder} (h : Move b b') : Opening b b'
  | mode (m : ClauseMode) (isOptional : Bool) : Opening b { b with clauseMode := some m, isOptionalMatch := isOptional }
  | fresh : Opening b { b with projections := [] }
  | loadCsv (h : NodeHandle) : Opening b { b with loadCsvClause := some h }
  | unwind (h : NodeHandle) (hn : ∃ expr var, b.arena.nodes[h]? = some (.unwindClause expr var)) :
      Opening b { b with unwindClauses := b.unwindClauses ++ [h] }
  | linear (h : NodeHandle)
      (hn : (∃ var expr, b.arena.nodes[h]? = some (.letClause var expr)) ∨
        ∃ predicate, b.arena.nodes[h]? = some (.filterClause predicate)) :
      Opening b { b with linearClauses := b.linearClauses ++ [h] }
  | withClause (h : NodeHandle)
      (hn : ∃ distinct items orderBy skip limit condition,
        b.arena.nodes[h]? = some (.withClause distinct items orderBy skip limit condition)) :
      Opening b { b with withClauses := b.withClauses ++ [h] }
  | mutation (h : NodeHandle)
      (hn : (∃ detach targets, b.arena.nodes[h]? = some (.deleteClause detach targets)) ∨
        ∃ targets, b.arena.nodes[h]? = some (.removeClause targets)) :
      Opening b { b with mutationClauses := b.mutationClauses ++ [h] }

inductive Closing (b : QueryBuilder) : QueryBuilder → Prop
  | next {b' : QueryBuilder} (h : ReflTransGen Opening b.flushCurrentPath b') : Closing b b'
  | node (var : Option String) (labels : Option LabelExpression) (hpending : b.pendingEdge = none)
      (hstart : b.currentPathStart.isSome) : Closing b (b.nodePatternInternal var labels)

variable {b b' : QueryBuilder}

lemma takePath_none (hstart : b.currentPathStart = none) : b.takePath = (none, b) := by
  unfold takePath
  rw [hstart]

lemma takePath_some {startNode : NodeHandle} (hstart : b.currentPathStart = some startNode) : ∃ path more var mode,
      b.takePath = (some path, { b with
        arena := ⟨b.arena.nodes ++ more⟩, currentPathStart := none, currentPathMode := .none
        currentPathVariable := none, currentEdges := [] }) ∧
      (b.clauseMode ≠ some .create → b.clauseMode ≠ some .merge →
        var = b.currentPathVariable ∧ mode = b.currentPathMode) ∧
      (more = [] ∧ path = startNode ∧ b.currentEdges = [] ∧ var = none ∧ mode = .none ∨
        more = [.pathChain var mode startNode b.currentEdges] ∧ path = b.arena.len) := by
  unfold takePath
  rw [hstart]
  dsimp only
  have hkept : b.clauseMode ≠ some .create → b.clauseMode ≠ some .merge →
      (b.clauseMode == some .create || b.clauseMode == some .merge) = false := by
    intro hcreate hmerge
    simp [hcreate, hmerge]
  generalize (b.clauseMode == some .create || b.clauseMode == some .merge) = isMutation at hkept ⊢
  generalize hmode : (if isMutation = true then PathMode.none else b.currentPathMode) = mode
  generalize hvar : (if isMutation = true then none else b.currentPathVariable) = var
  have hsame : b.clauseMode ≠ some .create → b.clauseMode ≠ some .merge →
      var = b.currentPathVariable ∧ mode = b.currentPathMode := by
    intro hcreate hmerge
    simp [← hmode, ← hvar, hkept hcreate hmerge]
  split
  · rename_i hplain
    rw [Bool.and_eq_true, Bool.and_eq_true] at hplain
    have hedges : b.currentEdges = [] := isEmpty_iff.mp hplain.1.1
    refine ⟨startNode, [], var, mode, ?_, hsame,
      .inl ⟨rfl, rfl, hedges, isNone_iff_eq_none.mp hplain.2, eq_of_beq hplain.1.2⟩⟩
    rw [append_nil, ← hedges]
  · exact ⟨b.arena.len, _, var, mode, rfl, hsame, .inr ⟨rfl, rfl⟩⟩

lemma moves_alloc (n : AstNode) (b : QueryBuilder) : ReflTransGen Move b (b.alloc n).2 := .single (.extend [n])

lemma moves_prop (var property : String) (b : QueryBuilder) : ReflTransGen Move b (b.prop var property).2 :=
  (moves_alloc _ b).trans (moves_alloc _ _)

lemma moves_assignment (var property : String) (expr : NodeHandle) (b : QueryBuilder) :
    ReflTransGen Move b (b.assignment var property expr).2 :=
  (moves_prop var property b).trans (moves_alloc _ _)

lemma moves_importSubarena (sub : QueryAstArena) (root : NodeHandle) (b : QueryBuilder) :
    ReflTransGen Move b (b.importSubarena sub root).2 :=
  .single (.extend _)

lemma moves_idents (names : List String) (b : QueryBuilder) : ReflTransGen Move b (b.idents names).2 := by
  induction names generalizing b with
  | nil => exact .refl
  | cons name names ih => exact (moves_alloc _ b).trans (ih _)

lemma moves_hops (min max : ℕ) (b : QueryBuilder) : ReflTransGen Move b (b.hops min max) := by
  unfold hops
  split
  · exact .single (.settings ..)
  · rename_i edge _ _
    rcases b.arena.modify_cases edge (setHops min max) with hmodify | ⟨e, hmodify⟩ <;> simp only [hmodify]
    · exact .single (.rehop edge min max)
    · exact .refl
  · exact .refl

lemma moves_node (var : Option String) (labels : Option LabelExpression)
    (hroom : b.pendingEdge.isSome ∨ b.currentPathStart = none) :
    ReflTransGen Move b (b.nodePatternInternal var labels) :=
  .single (.node var labels hroom)

section

variable {arena : QueryAstArena} {s : QueryBuilder × Finset String}

lemma moves_importNode (h : NodeHandle) (hroom : s.1.pendingEdge.isSome ∨ s.1.currentPathStart = none) :
    ReflTransGen Move s.1 (importNode arena h s).1 := by
  unfold importNode
  split
  · exact moves_node _ _ hroom
  · exact .refl

lemma moves_importHops (min max : Option ℕ) (b : QueryBuilder) : ReflTransGen Move b (b.importHops min max) := by
  unfold importHops
  split
  · exact moves_hops _ _ b
  · exact .refl

lemma pendingEdge_importHops {min max : Option ℕ} (h : b.pendingEdge.isSome) :
    (b.importHops min max).pendingEdge.isSome := by
  obtain ⟨pending, hpending⟩ := isSome_iff_exists.mp h
  unfold importHops
  split
  · simp [hops, hpending]
  · exact h

lemma moves_importEdge (edge : NodeHandle) : ReflTransGen Move s.1 (importEdge arena s edge).1 := by
  unfold importEdge
  split
  · rename_i var labels direction minHops maxHops _ targetNode _
    have hedge : ReflTransGen Move s.1 (s.1.edgeExprOpt direction labels var) := .single (.settings ..)
    refine hedge.trans ((moves_importHops minHops maxHops _).trans ?_)
    exact moves_importNode (s := (_, s.2 ∪ var.toFinset)) targetNode (.inl (pendingEdge_importHops rfl))
  · exact .refl

lemma moves_foldl {α : Type*} {f : QueryBuilder × Finset String → α → QueryBuilder × Finset String}
    (hf : ∀ s x, ReflTransGen Move s.1 (f s x).1) (l : List α) (s : QueryBuilder × Finset String) :
    ReflTransGen Move s.1 (l.foldl f s).1 := by
  induction l generalizing s with
  | nil => exact .refl
  | cons x l ih => exact (hf s x).trans (ih _)

lemma currentPathStart_pattern (b : QueryBuilder) : b.pattern.currentPathStart = none := by
  unfold pattern
  cases hstart : b.currentPathStart with
  | none => rw [takePath_none hstart]; exact hstart
  | some startNode =>
    obtain ⟨path, more, _, _, htake, -⟩ := takePath_some hstart
    rw [htake]

lemma moves_importPath (s : QueryBuilder × Finset String) (path : NodeHandle) :
    ReflTransGen Move s.1 (importPath arena s path).1 := by
  have hpattern : ∃ b, b.currentPathStart = none ∧ ReflTransGen Move s.1 b ∧
      b = if s.1.currentPathStart.isSome || !s.1.currentMatchPaths.isEmpty then s.1.pattern else s.1 := by
    refine ⟨_, ?_, ?_, rfl⟩ <;> split
    · exact currentPathStart_pattern _
    · simp_all
    · exact .single .pattern
    · exact .refl
  obtain ⟨b, hstart, hmoves, hb⟩ := hpattern
  unfold importPath
  rw [← hb]
  dsimp only
  split
  · exact hmoves.trans (moves_importNode (s := (b, s.2)) path (.inr hstart))
  · refine hmoves.trans (.trans ?_ (moves_foldl (fun _ e => moves_importEdge e) _ _))
    exact moves_importNode (s := (b, s.2)) _ (.inr hstart)
  · exact hmoves

lemma moves_importWhere (condition : Option NodeHandle) (b : QueryBuilder) :
    ReflTransGen Move b (b.importWhere arena condition) := by
  unfold importWhere
  split
  · rename_i rootPredicate _
    exact (moves_importSubarena arena rootPredicate b).tail (.filter _)
  · exact .refl

lemma moves_importMatch (s : QueryBuilder × Finset String) (clause : NodeHandle) :
    ReflTransGen Move s.1 (importMatch arena s clause).1 := by
  unfold importMatch
  split
  · exact (moves_foldl moves_importPath _ _).trans (moves_importWhere _ _)
  · exact .refl

end

variable (unicode : Unicode) {c : Call}

theorem Call.moves_of_not_closes (hproc : c.isProcedure = false) (hc : c.closes b = false) :
    ReflTransGen Move b (c.run unicode b) := by
  cases c with
  | ident | literal | param | binaryExpr | unaryExpr | function | caseWhen | listComprehension | patternComprehension
  | existsSubquery | countSubquery | listLiteral => exact moves_alloc _ b
  | prop var property => exact moves_prop var property b
  | importSubarena sub root => exact moves_importSubarena sub root b
  | explain | profile | setExecutionMode | to_ | toExprOpt | from_ | fromExprOpt | edge | edgeExprOpt | pathMode
  | pathVariable | distinct | orderBy | limit | skip => exact .single (.settings ..)
  | onCreateSetExpr var property expr => exact (moves_assignment var property expr b).tail (.onCreate _)
  | onMatchSetExpr var property expr => exact (moves_assignment var property expr b).tail (.onMatch _)
  | setPropertyExpr var property expr => exact (moves_assignment var property expr b).tail (.assign _)
  | onCreateSet => exact (moves_alloc _ b).trans ((moves_assignment _ _ _ _).tail (.onCreate _))
  | onMatchSet => exact (moves_alloc _ b).trans ((moves_assignment _ _ _ _).tail (.onMatch _))
  | setProperty => exact (moves_alloc _ b).trans ((moves_assignment _ _ _ _).tail (.assign _))
  | setMerge => exact (moves_alloc _ b).trans ((moves_alloc _ _).trans ((moves_alloc _ _).tail (.assign _)))
  | node | nodeExpr =>
    refine moves_node _ _ ?_
    simpa [closes, isSome_iff_ne_none, or_iff_not_imp_left] using hc
  | hops min max => exact moves_hops min max b
  | wherePredicate predicate => exact .single (.filter predicate)
  | whereProperty =>
    exact (moves_prop _ _ b).trans ((moves_alloc _ _).trans ((moves_alloc _ _).tail (.filter _)))
  | select items => exact .single (.project items)
  | selectExpr | selectAggregate => exact .single (.project [_])
  | selectProperty | selectPropertyAggregate => exact (moves_prop _ _ b).tail (.project [_])
  | orderByProperty => exact (moves_prop _ _ b).tail (.settings ..)
  | pattern => exact .single .pattern
  | importMatchPatterns other seen =>
    have hmode : b.clauseMode.isNone = false := hc
    change ReflTransGen Move b (b.importMatchPatterns other seen).1
    unfold QueryBuilder.importMatchPatterns
    simp only [hmode, Bool.false_eq_true, if_false]
    exact moves_foldl moves_importMatch _ (b, seen)
  | _ => simp_all [closes, isProcedure]

lemma Opening.moves (h : ReflTransGen Move b b') : ReflTransGen Opening b b' :=
  ReflTransGen.mono (fun _ _ => Opening.move) _ _ h

lemma openings_alloc (n : AstNode) (b : QueryBuilder) : ReflTransGen Opening b (b.alloc n).2 :=
  Opening.moves (moves_alloc n b)

theorem Call.closing_of_closes (hproc : c.isProcedure = false) (hc : c.closes b = true) :
    Closing b (c.run unicode b) := by
  cases c with
  | unwind =>
    refine .next ((openings_alloc _ _).tail (.unwind _ ⟨_, _, alloc_node ..⟩))
  | unwindParam =>
    exact .next ((openings_alloc _ _).trans ((openings_alloc _ _).tail
      (.unwind _ ⟨_, _, alloc_node ..⟩)))
  | loadCsv => exact .next ((openings_alloc _ _).trans ((openings_alloc _ _).tail (.loadCsv _)))
  | match_ => exact .next (.single (.mode .match_ false))
  | optionalMatch => exact .next (.single (.mode .optionalMatch true))
  | create => exact .next (.single (.mode .create b.flushCurrentPath.isOptionalMatch))
  | merge => exact .next (.single (.mode .merge b.flushCurrentPath.isOptionalMatch))
  | delete targets | detachDelete targets =>
    exact .next ((Opening.moves (moves_idents targets _)).trans ((openings_alloc _ _).tail
      (.mutation _ (.inl ⟨_, _, alloc_node ..⟩))))
  | removeProperty var property =>
    exact .next ((Opening.moves (moves_prop var property _)).trans ((openings_alloc _ _).tail
      (.mutation _ (.inr ⟨_, alloc_node ..⟩))))
  | with_ =>
    exact .next (((ReflTransGen.single .fresh).tail (.move (.settings _ _ _ _ [] false none none))).tail
      (.mode .with_ b.flushCurrentPath.isOptionalMatch))
  | withClause =>
    exact .next ((openings_alloc _ _).tail (.withClause _ ⟨_, _, _, _, _, _, alloc_node ..⟩))
  | return_ => exact .next .refl
  | let_ => exact .next ((openings_alloc _ _).tail (.linear _ (.inl ⟨_, _, alloc_node ..⟩)))
  | filter_ => exact .next ((openings_alloc _ _).tail (.linear _ (.inr ⟨_, alloc_node ..⟩)))
  | node | nodeExpr =>
    have hopen : b.pendingEdge.isNone = true ∧ b.currentPathStart.isSome = true := by simpa [closes] using hc
    exact .node _ _ (isNone_iff_eq_none.mp hopen.1) hopen.2
  | importMatchPatterns other seen =>
    have hmode : b.clauseMode.isNone = true := hc
    change Closing b (b.importMatchPatterns other seen).1
    unfold QueryBuilder.importMatchPatterns
    simp only [hmode, if_true]
    exact .next (.head (.mode .match_ false) (Opening.moves (moves_foldl moves_importMatch _ (b.match_, seen))))
  | _ => simp_all [closes, isProcedure]

end QueryBuilder

end Voyager
