import Voyager.Builder.Steps

/-! What is written when a clause is closed, and what stays of it in the arena. -/

namespace Voyager

open List Option QueryAstArena
open QueryAstArena (len)

namespace AstNode

def settled : AstNode → AstNode
  | edgePattern var labels direction _ _ predicates targetNode =>
    edgePattern var labels direction none none predicates targetNode
  | procedureCall mode ns procedure arguments _ => procedureCall mode ns procedure arguments []
  | n => n

def isFinal : AstNode → Bool
  | edgePattern .. | procedureCall .. => false
  | _ => true

lemma settled_setHops (min max : ℕ) (n : AstNode) : (QueryBuilder.setHops min max n).settled = n.settled := by
  cases n <;> rfl

lemma settled_setYieldItems (items : List String) (n : AstNode) :
    (QueryBuilder.setYieldItems items n).settled = n.settled := by
  cases n <;> rfl

lemma eq_of_settled {n m : AstNode} (hn : n.isFinal = true) (h : m.settled = n.settled) : m = n := by
  cases n with
  | edgePattern | procedureCall => cases hn
  | _ => cases m <;> first | exact h | cases h

end AstNode

namespace QueryAstArena

def Settles (a a' : QueryAstArena) : Prop := a.nodes.map AstNode.settled <+: a'.nodes.map AstNode.settled

variable {a a' a'' : QueryAstArena} {h : NodeHandle} {n : AstNode}

lemma Settles.refl (a : QueryAstArena) : a.Settles a := prefix_rfl

lemma Settles.trans (h : a.Settles a') (h' : a'.Settles a'') : a.Settles a'' := List.IsPrefix.trans h h'

lemma settles_append (a : QueryAstArena) (nodes : List AstNode) : a.Settles ⟨a.nodes ++ nodes⟩ := by
  unfold Settles
  rw [map_append]
  exact prefix_append _ _

lemma settles_modify (a : QueryAstArena) (h : NodeHandle) {f : AstNode → AstNode}
    (hf : ∀ n, (f n).settled = n.settled) : a.Settles ⟨a.nodes.modify h f⟩ := by
  have hmap : (a.nodes.modify h f).map AstNode.settled = a.nodes.map AstNode.settled := by
    apply ext_getElem?
    intro i
    rw [getElem?_map, getElem?_map, getElem?_modify]
    cases a.nodes[i]? with
    | none => rfl
    | some n => by_cases hi : h = i <;> simp [hi, hf]
  unfold Settles
  rw [hmap]

lemma settles_rehop (a : QueryAstArena) (edge : NodeHandle) (min max : ℕ) :
    a.Settles ⟨a.nodes.modify edge (QueryBuilder.setHops min max)⟩ :=
  settles_modify a edge (AstNode.settled_setHops min max)

lemma Settles.settled (h : a.Settles a') {i : NodeHandle} (hn : a.nodes[i]? = some n) :
    ∃ n', a'.nodes[i]? = some n' ∧ n'.settled = n.settled := by
  have hmap : (a.nodes.map AstNode.settled)[i]? = some n.settled := by rw [getElem?_map, hn]; rfl
  obtain ⟨more, hmore⟩ := h
  have hlt := (List.getElem?_eq_some_iff.mp hmap).1
  have hlonger : (a'.nodes.map AstNode.settled)[i]? = some n.settled := by
    rw [← hmore, getElem?_append_left hlt, hmap]
  rwa [getElem?_map, map_eq_some_iff] at hlonger

lemma Settles.node (h : a.Settles a') {i : NodeHandle} (hn : a.nodes[i]? = some n) (hfinal : n.isFinal = true) :
    a'.nodes[i]? = some n := by
  obtain ⟨n', hn', hsettled⟩ := h.settled hn
  rw [hn', AstNode.eq_of_settled hfinal hsettled]

lemma Settles.len_le (h : a.Settles a') : a.len ≤ a'.len := by
  have hlen := List.IsPrefix.length_le h
  rwa [length_map, length_map] at hlen

inductive Conjunct (a : QueryAstArena) (p : NodeHandle) : NodeHandle → Prop
  | self : Conjunct a p p
  | left {h l r : NodeHandle} (hn : a.nodes[h]? = some (.binaryExpression l .and r)) (hl : Conjunct a p l) : Conjunct a p h
  | right {h l r : NodeHandle} (hn : a.nodes[h]? = some (.binaryExpression l .and r)) (hr : Conjunct a p r) : Conjunct a p h

lemma Conjunct.mono {p : NodeHandle} (ha : a.Settles a') (hp : a.Conjunct p h) : a'.Conjunct p h := by
  induction hp with
  | self => exact .self
  | left hn _ ih => exact .left (ha.node hn rfl) ih
  | right hn _ ih => exact .right (ha.node hn rfl) ih

def Filters (a : QueryAstArena) (condition : Option NodeHandle) (p : NodeHandle) : Prop :=
  ∃ h root, condition = some h ∧ a.nodes[h]? = some (.whereClause root) ∧ a.Conjunct p root

lemma Filters.mono {condition : Option NodeHandle} {p : NodeHandle} (ha : a.Settles a') (hp : a.Filters condition p) :
    a'.Filters condition p := by
  obtain ⟨h, root, hcond, hwhere, hconj⟩ := hp
  exact ⟨h, root, hcond, ha.node hwhere rfl, hconj.mono ha⟩

end QueryAstArena

namespace QueryBuilder

variable {b b' b'' : QueryBuilder}

lemma foldl_and (rest : List NodeHandle) (combined : NodeHandle) (b : QueryBuilder) : ∃ root more,
      rest.foldl (fun (combined, b) next => binaryExpr combined .and next b) (combined, b) =
        (root, { b with arena := ⟨b.arena.nodes ++ more⟩ }) ∧
      ∀ p, (QueryAstArena.mk (b.arena.nodes ++ more)).Conjunct p combined ∨ p ∈ rest →
        (QueryAstArena.mk (b.arena.nodes ++ more)).Conjunct p root := by
  induction rest generalizing combined b with
  | nil =>
    refine ⟨combined, [], by simp, ?_⟩
    rintro p (hp | hp)
    · exact hp
    · cases hp
  | cons next rest ih =>
    set added := AstNode.binaryExpression combined .and next
    obtain ⟨root, more, hfold, hroot⟩ := ih b.arena.len (b.alloc added).2
    have hnodes : (b.alloc added).2.arena.nodes ++ more = b.arena.nodes ++ added :: more := by
      simp [alloc, QueryAstArena.alloc]
    have hadded : (b.arena.nodes ++ added :: more)[b.arena.len]? = some added := by
      simp [len]
    rw [hnodes] at hfold hroot
    refine ⟨root, added :: more, hfold, fun p hp => hroot p ?_⟩
    rcases hp with hp | hp
    · exact .inl (.left hadded hp)
    · rcases List.mem_cons.mp hp with rfl | hp
      · exact .inl (.right hadded .self)
      · exact .inr hp

lemma takeWhere_spec (b : QueryBuilder) : ∃ condition more,
      b.takeWhere = (condition, { b with arena := ⟨b.arena.nodes ++ more⟩, currentWherePredicates := [] }) ∧
      ∀ p ∈ b.currentWherePredicates, (QueryAstArena.mk (b.arena.nodes ++ more)).Filters condition p := by
  unfold takeWhere
  cases hpreds : b.currentWherePredicates with
  | nil =>
    have hb : { b with currentWherePredicates := [] } = b := by rw [← hpreds]
    refine ⟨none, [], ?_, by simp⟩
    rw [append_nil]
    exact congrArg (Prod.mk none) hb.symm
  | cons first rest =>
    obtain ⟨root, more, hfold, hroot⟩ := foldl_and rest first { b with currentWherePredicates := [] }
    have hnodes : (QueryAstArena.mk (b.arena.nodes ++ more)).Settles
        ⟨b.arena.nodes ++ (more ++ [.whereClause root])⟩ := by
      rw [← append_assoc]
      exact settles_append ⟨_⟩ _
    refine ⟨some (b.arena.nodes ++ more).length, more ++ [.whereClause root], ?_, ?_⟩
    · dsimp only
      rw [hfold]
      simp [alloc, QueryAstArena.alloc, len]
    · intro p hp
      refine ⟨_, root, rfl, ?_, (hroot p ?_).mono hnodes⟩
      · change (b.arena.nodes ++ (more ++ [.whereClause root]))[(b.arena.nodes ++ more).length]? = _
        rw [← append_assoc]
        exact getElem?_concat_length
      · rcases List.mem_cons.mp hp with rfl | hp
        · exact .inl .self
        · exact .inr hp

lemma flushSet_spec (b : QueryBuilder) : ∃ more clauses,
      b.flushSet = { b with
        arena := ⟨b.arena.nodes ++ more⟩, currentSetItems := [], mutationClauses := b.mutationClauses ++ clauses } ∧
      (b.currentSetItems = [] ∧ more = [] ∧ clauses = [] ∨
        b.currentSetItems ≠ [] ∧ more = [.setClause b.currentSetItems] ∧ clauses = [b.arena.len]) := by
  unfold flushSet
  split
  · rename_i hempty
    have hnil := List.isEmpty_iff.mp hempty
    exact ⟨[], [], by rw [append_nil, append_nil, ← hnil], .inl ⟨hnil, rfl, rfl⟩⟩
  · rename_i hempty
    exact ⟨_, _, rfl, .inr ⟨by simpa using hempty, rfl, rfl⟩⟩

def hasPath (b : QueryBuilder) : Bool := b.currentPathStart.isSome || !b.currentMatchPaths.isEmpty

def closePath (b : QueryBuilder) : List NodeHandle × QueryBuilder :=
  let (path, b') := takePath { b with currentMatchPaths := [] }
  (b.currentMatchPaths ++ path.toList, b')

lemma closePath_spec (b : QueryBuilder) : ∃ paths more mode var edges,
      b.closePath = (paths, { b with
        arena := ⟨b.arena.nodes ++ more⟩, currentMatchPaths := [], currentPathStart := none, currentPathMode := mode
        currentPathVariable := var, currentEdges := edges }) ∧
      (paths ≠ [] ↔ b.hasPath = true) ∧
      (edges = [] ∧ var = none ∧ mode = .none ∨
        b.currentPathStart.isSome = false ∧ edges = b.currentEdges ∧ var = b.currentPathVariable ∧
          mode = b.currentPathMode) := by
  unfold closePath hasPath
  rcases eq_none_or_eq_some b.currentPathStart with hstart | ⟨startNode, hstart⟩
  · rw [takePath_none (b := { b with currentMatchPaths := [] }) hstart]
    refine ⟨b.currentMatchPaths, [], b.currentPathMode, b.currentPathVariable, b.currentEdges, ?_, by simp [hstart],
      .inr ⟨by rw [hstart]; rfl, rfl, rfl, rfl⟩⟩
    simp [← hstart]
  · obtain ⟨path, more, _, _, htake, -⟩ := takePath_some (b := { b with currentMatchPaths := [] }) hstart
    rw [htake]
    exact ⟨_, _, _, _, _, rfl, by simp [hstart], .inl ⟨rfl, rfl, rfl⟩⟩

lemma flush_eq (hmode : b.clauseMode ≠ some .with_) :
    b.flushCurrentPath = (b.closePath.2.flushPaths b.closePath.1).flushSet := by
  unfold flushCurrentPath closePath
  rw [if_neg (by simpa using hmode)]

lemma flushPaths_nil (b : QueryBuilder) : b.flushPaths [] = b := rfl

lemma flushPaths_create {paths : List NodeHandle} (hpaths : paths ≠ []) (hmode : b.clauseMode = some .create) :
    b.flushPaths paths = { b with
      arena := ⟨b.arena.nodes ++ [.createClause paths]⟩, mutationClauses := b.mutationClauses ++ [b.arena.len] } := by
  cases paths with
  | nil => exact absurd rfl hpaths
  | cons path rest =>
    cases b
    subst hmode
    rfl

variable {rest : List NodeHandle}

lemma flushPaths_merge {path : NodeHandle} (hmode : b.clauseMode = some .merge) :
    b.flushPaths (path :: rest) = { b with
      arena := ⟨b.arena.nodes ++ [.mergeClause path b.currentOnCreateSet b.currentOnMatchSet]⟩
      currentOnCreateSet := [], currentOnMatchSet := [], mutationClauses := b.mutationClauses ++ [b.arena.len] } := by
  cases b
  subst hmode
  rfl

def matching (b : QueryBuilder) : Bool :=
  match b.clauseMode with
  | some .with_ | some .create | some .merge => false
  | _ => true

lemma takeWhere_clause (b : QueryBuilder) (clause : Option NodeHandle → AstNode) : ∃ more condition h n,
      b.takeWhere = (condition, { b with arena := ⟨b.arena.nodes ++ more⟩, currentWherePredicates := [] }) ∧
      h = (b.arena.nodes ++ more).length ∧ n = more ++ [clause condition] ∧
      (b.arena.nodes ++ n)[h]? = some (clause condition) ∧
      ∀ p ∈ b.currentWherePredicates, (QueryAstArena.mk (b.arena.nodes ++ n)).Filters condition p := by
  obtain ⟨condition, more, htake, hfilters⟩ := takeWhere_spec b
  refine ⟨more, condition, _, _, htake, rfl, rfl, ?_, fun p hp => ?_⟩
  all_goals rw [← append_assoc]
  · exact getElem?_concat_length
  · exact (hfilters p hp).mono (settles_append ⟨_⟩ _)

variable (paths : List NodeHandle)

lemma flushPaths_match (hpaths : paths ≠ []) (hmode : b.matching = true) : ∃ more condition clause,
      b.flushPaths paths = { b with
        arena := ⟨b.arena.nodes ++ more⟩, currentWherePredicates := [], matchClauses := b.matchClauses ++ [clause] } ∧
      (b.arena.nodes ++ more)[clause]? = some (.matchClause b.isOptionalMatch paths condition) ∧
      ∀ p ∈ b.currentWherePredicates, (QueryAstArena.mk (b.arena.nodes ++ more)).Filters condition p := by
  obtain ⟨more, condition, h, _, htake, rfl, rfl, hspec⟩ :=
    takeWhere_clause b (.matchClause b.isOptionalMatch paths)
  refine ⟨_, condition, _, ?_, hspec⟩
  rw [← append_assoc]
  unfold matching at hmode
  unfold flushPaths
  split <;> simp_all [alloc, QueryAstArena.alloc, len]

lemma flush_with (hmode : b.clauseMode = some .with_) (hitems : b.projections ≠ []) : ∃ more condition clause,
      b.flushCurrentPath = { b with
        arena := ⟨b.arena.nodes ++ more⟩, currentWherePredicates := [], projections := [], orderBys := []
        isDistinct := false, skipRows := none, limitRows := none, withClauses := b.withClauses ++ [clause]
        clauseMode := none } ∧
      (b.arena.nodes ++ more)[clause]? =
        some (.withClause b.isDistinct b.projections b.orderBys b.skipRows b.limitRows condition) ∧
      ∀ p ∈ b.currentWherePredicates, (QueryAstArena.mk (b.arena.nodes ++ more)).Filters condition p := by
  obtain ⟨more, condition, h, _, htake, rfl, rfl, hspec⟩ := takeWhere_clause { b with projections := [] }
    (.withClause b.isDistinct b.projections b.orderBys b.skipRows b.limitRows)
  refine ⟨_, condition, _, ?_, hspec⟩
  rw [← append_assoc]
  unfold flushCurrentPath flushWith
  rw [if_pos (by simp [hmode]), if_neg (by simpa using hitems)]
  simp only [htake]
  rfl

lemma flush_with_nothing (hmode : b.clauseMode = some .with_) (hitems : b.projections = []) :
    b.flushCurrentPath = { b with
      currentWherePredicates := [], orderBys := [], isDistinct := false, skipRows := none, limitRows := none
      clauseMode := none } := by
  unfold flushCurrentPath flushWith
  rw [if_pos (by simp [hmode]), if_pos (by simp [hitems])]

lemma flush_inside (hmode : b.clauseMode = some .with_) : ∃ more clauses, b.flushCurrentPath = { b with
      arena := ⟨b.arena.nodes ++ more⟩, currentWherePredicates := [], projections := [], orderBys := []
      isDistinct := false, skipRows := none, limitRows := none, withClauses := b.withClauses ++ clauses
      clauseMode := none } := by
  by_cases hitems : b.projections = []
  · rw [flush_with_nothing hmode hitems]
    exact ⟨[], [], by rw [append_nil, append_nil, ← hitems]⟩
  · obtain ⟨more, condition, clause, hflush, -⟩ := flush_with hmode hitems
    exact ⟨more, [clause], hflush⟩

structure Keeps (b b' : QueryBuilder) : Prop where
  arena : b.arena.Settles b'.arena
  unwinds : b.unwindClauses <+: b'.unwindClauses
  matchClauses : b.matchClauses <+: b'.matchClauses
  linear : b.linearClauses <+: b'.linearClauses
  withClauses : b.withClauses <+: b'.withClauses
  mutations : b.mutationClauses <+: b'.mutationClauses
  procedure : b'.procedureCall = b.procedureCall

lemma Keeps.refl (b : QueryBuilder) : Keeps b b :=
  ⟨.refl _, prefix_rfl, prefix_rfl, prefix_rfl, prefix_rfl, prefix_rfl, rfl⟩

lemma Keeps.trans (h : Keeps b b') (h' : Keeps b' b'') : Keeps b b'' :=
  ⟨h.arena.trans h'.arena, h.unwinds.trans h'.unwinds, h.matchClauses.trans h'.matchClauses, h.linear.trans h'.linear,
    h.withClauses.trans h'.withClauses, h.mutations.trans h'.mutations, h'.procedure.trans h.procedure⟩

lemma keeps_extend (b : QueryBuilder) (nodes : List AstNode) : Keeps b { b with arena := ⟨b.arena.nodes ++ nodes⟩ } :=
  { Keeps.refl b with arena := settles_append _ _ }

lemma keeps_flushSet (b : QueryBuilder) : Keeps b b.flushSet := by
  obtain ⟨more, clauses, hflush, -⟩ := flushSet_spec b
  rw [hflush]
  exact { Keeps.refl b with arena := settles_append _ _, mutations := prefix_append _ _ }

lemma matching_cases (hmode : b.clauseMode ≠ some .with_) :
    b.clauseMode = some .create ∨ b.clauseMode = some .merge ∨ b.matching = true := by
  unfold matching
  cases hclause : b.clauseMode with
  | none => simp
  | some m => cases m <;> simp_all

lemma flushPaths_spec (hmode : b.clauseMode ≠ some .with_) : ∃ more predicates reads onCreate onMatch writes,
      b.flushPaths paths = { b with
        arena := ⟨b.arena.nodes ++ more⟩, currentWherePredicates := predicates
        matchClauses := b.matchClauses ++ reads, currentOnCreateSet := onCreate, currentOnMatchSet := onMatch
        mutationClauses := b.mutationClauses ++ writes } ∧
      (reads ≠ [] → paths ≠ [] ∧ b.matching = true) := by
  cases paths with
  | nil => exact ⟨[], _, [], _, _, [], by rw [flushPaths_nil, append_nil, append_nil, append_nil], by simp⟩
  | cons path rest =>
    rcases matching_cases hmode with hcreate | hmerge | hmatch
    · rw [flushPaths_create (by simp) hcreate]
      exact ⟨_, _, [], _, _, _, by rw [append_nil b.matchClauses], by simp⟩
    · rw [flushPaths_merge hmerge]
      exact ⟨_, _, [], _, _, _, by rw [append_nil b.matchClauses], by simp⟩
    · obtain ⟨more, condition, clause, hflush, -⟩ := flushPaths_match (path :: rest) (by simp) hmatch
      rw [hflush]
      exact ⟨more, _, [clause], _, _, [], by rw [append_nil], fun _ => ⟨by simp, hmatch⟩⟩

lemma clauseMode_closePath (b : QueryBuilder) : b.closePath.2.clauseMode = b.clauseMode := by
  obtain ⟨paths, more, mode, var, edges, hclose, -⟩ := closePath_spec b
  rw [hclose]

lemma flush_path (hmode : b.clauseMode ≠ some .with_) :
    ∃ more predicates reads onCreate onMatch writes mode var edges,
      b.flushCurrentPath = { b with
        arena := ⟨b.arena.nodes ++ more⟩, currentWherePredicates := predicates
        matchClauses := b.matchClauses ++ reads, currentOnCreateSet := onCreate, currentOnMatchSet := onMatch
        mutationClauses := b.mutationClauses ++ writes, currentSetItems := [], currentMatchPaths := []
        currentPathStart := none, currentPathMode := mode, currentPathVariable := var, currentEdges := edges } ∧
      (reads ≠ [] → b.hasPath = true ∧ b.matching = true) ∧
      (edges = [] ∧ var = none ∧ mode = .none ∨ b.currentPathStart.isSome = false ∧
        edges = b.currentEdges ∧ var = b.currentPathVariable ∧ mode = b.currentPathMode) := by
  obtain ⟨paths, more, mode, var, edges, hclose, hpaths, hpath⟩ := closePath_spec b
  obtain ⟨_, _, reads, _, _, writes, hflush, hreads⟩ := flushPaths_spec (b := b.closePath.2) b.closePath.1
    (by rwa [clauseMode_closePath])
  obtain ⟨_, clauses, hset, -⟩ := flushSet_spec (b.closePath.2.flushPaths b.closePath.1)
  rw [flush_eq hmode, hset, hflush]
  rw [hclose] at hreads ⊢
  simp only [append_assoc]
  exact ⟨_, _, reads, _, _, _, _, _, _, rfl, fun h => (hreads h).imp_left hpaths.mp, hpath⟩

lemma keeps_flush (b : QueryBuilder) : Keeps b b.flushCurrentPath := by
  by_cases hmode : b.clauseMode = some .with_
  · obtain ⟨more, clauses, hflush⟩ := flush_inside hmode
    rw [hflush]
    exact { Keeps.refl b with arena := settles_append _ _, withClauses := prefix_append _ _ }
  · obtain ⟨_, _, _, _, _, _, _, _, _, hflush, -⟩ := flush_path hmode
    rw [hflush]
    exact { Keeps.refl b with
      arena := settles_append _ _, matchClauses := prefix_append _ _, mutations := prefix_append _ _ }

variable {pending : PendingEdge}

section

variable {var : Option String} {labels : Option LabelExpression}

lemma nodePattern_edge (hpending : b.pendingEdge = some pending) : b.nodePatternInternal var labels = { b with
      arena := ⟨b.arena.nodes ++ [.nodePattern var labels [], .edgePattern pending.var pending.labelExpression
        pending.direction pending.minHops pending.maxHops [] b.arena.len]⟩
      pendingEdge := none, currentEdges := b.currentEdges ++ [b.arena.len + 1] } := by
  unfold nodePatternInternal
  simp [alloc, QueryAstArena.alloc, len, hpending]

lemma nodePattern_start (hpending : b.pendingEdge = none) (hstart : b.currentPathStart = none) :
    b.nodePatternInternal var labels = { b with
      arena := ⟨b.arena.nodes ++ [.nodePattern var labels []]⟩, currentPathStart := some b.arena.len } := by
  unfold nodePatternInternal
  simp [alloc, QueryAstArena.alloc, hpending, hstart]

lemma nodePattern_split (hpending : b.pendingEdge = none) (hstart : b.currentPathStart.isSome = true) :
    b.nodePatternInternal var labels =
      { (b.alloc (.nodePattern var labels [])).2.flushCurrentPath with currentPathStart := some b.arena.len } := by
  unfold nodePatternInternal
  simp [alloc, QueryAstArena.alloc, hpending, hstart]

end

lemma node_nodePattern (var : Option String) (labels : Option LabelExpression) (b : QueryBuilder) :
    (b.nodePatternInternal var labels).arena.nodes[b.arena.len]? = some (.nodePattern var labels []) := by
  cases hpending : b.pendingEdge with
  | some pending =>
    rw [nodePattern_edge hpending]
    simp [len]
  | none =>
    rcases eq_none_or_eq_some b.currentPathStart with hstart | ⟨s, hs⟩
    · rw [nodePattern_start hpending hstart]
      exact getElem?_concat_length
    · rw [nodePattern_split hpending (by rw [hs]; rfl)]
      exact (keeps_flush _).arena.node getElem?_concat_length rfl

lemma edge_nodePattern (var : Option String) (labels : Option LabelExpression)
    (hpending : b.pendingEdge = some pending) :
    (b.nodePatternInternal var labels).arena.nodes[b.arena.len + 1]? = some (.edgePattern pending.var
      pending.labelExpression pending.direction pending.minHops pending.maxHops [] b.arena.len) := by
  rw [nodePattern_edge hpending]
  simp [len]

structure Quiet (b b' : QueryBuilder) : Prop where
  arena : b.arena.Settles b'.arena
  unwinds : b'.unwindClauses = b.unwindClauses
  matchClauses : b'.matchClauses = b.matchClauses
  linear : b'.linearClauses = b.linearClauses
  withClauses : b'.withClauses = b.withClauses
  mutations : b'.mutationClauses = b.mutationClauses
  procedure : b'.procedureCall = b.procedureCall
  mode : b'.clauseMode = b.clauseMode
  isOptional : b'.isOptionalMatch = b.isOptionalMatch
  hasPath : b.hasPath = true → b'.hasPath = true
  predicates : b.currentWherePredicates ⊆ b'.currentWherePredicates
  projections : b.projections <+: b'.projections
  setItems : b.currentSetItems ⊆ b'.currentSetItems
  onCreate : b.currentOnCreateSet ⊆ b'.currentOnCreateSet
  onMatch : b.currentOnMatchSet ⊆ b'.currentOnMatchSet

open Quiet

lemma Quiet.refl (b : QueryBuilder) : Quiet b b :=
  ⟨.refl _, rfl, rfl, rfl, rfl, rfl, rfl, rfl, rfl, id, List.Subset.refl _, prefix_rfl, List.Subset.refl _,
    List.Subset.refl _, List.Subset.refl _⟩

lemma Quiet.trans (h : Quiet b b') (h' : Quiet b' b'') : Quiet b b'' :=
  ⟨h.arena.trans h'.arena, h'.unwinds.trans h.unwinds, h'.matchClauses.trans h.matchClauses, h'.linear.trans h.linear,
    h'.withClauses.trans h.withClauses, h'.mutations.trans h.mutations, h'.procedure.trans h.procedure,
    h'.mode.trans h.mode, h'.isOptional.trans h.isOptional, h'.hasPath ∘ h.hasPath,
    List.Subset.trans h.predicates h'.predicates, h.projections.trans h'.projections, List.Subset.trans h.setItems h'.setItems,
    List.Subset.trans h.onCreate h'.onCreate, List.Subset.trans h.onMatch h'.onMatch⟩

lemma Quiet.keeps (h : Quiet b b') : Keeps b b' :=
  ⟨h.arena, h.unwinds ▸ prefix_rfl, h.matchClauses ▸ prefix_rfl, h.linear ▸ prefix_rfl,
    h.withClauses ▸ prefix_rfl, h.mutations ▸ prefix_rfl, h.procedure⟩

lemma quiet_pattern (b : QueryBuilder) : Quiet b b.pattern := by
  unfold pattern
  cases hstart : b.currentPathStart with
  | none => simpa [takePath_none hstart] using refl b
  | some startNode =>
    obtain ⟨path, more, _, _, htake, -⟩ := takePath_some hstart
    rw [htake]
    exact { refl b with arena := settles_append _ _, hasPath := by simp [QueryBuilder.hasPath] }

lemma Move.quiet (h : Move b b') : Quiet b b' := by
  cases h with
  | extend nodes => exact { refl b with arena := settles_append _ _ }
  | settings => exact { refl b with }
  | project items => exact { refl b with projections := prefix_append _ _ }
  | filter => exact { refl b with predicates := subset_append_left _ _ }
  | onCreate => exact { refl b with onCreate := subset_append_left _ _ }
  | onMatch => exact { refl b with onMatch := subset_append_left _ _ }
  | assign => exact { refl b with setItems := subset_append_left _ _ }
  | rehop edge min max => exact { refl b with arena := settles_rehop _ _ _ _ }
  | pattern => exact quiet_pattern b
  | node var labels hroom =>
    cases hpending : b.pendingEdge with
    | some pending =>
      rw [nodePattern_edge hpending]
      exact { refl b with arena := settles_append _ _ }
    | none =>
      rw [nodePattern_start hpending (hroom.resolve_left (by simp [hpending]))]
      exact { refl b with arena := settles_append _ _, hasPath := by simp [QueryBuilder.hasPath] }

lemma quiet_of_moves (h : Relation.ReflTransGen Move b b') : Quiet b b' := by
  induction h with
  | refl => exact .refl _
  | tail _ hmove ih => exact ih.trans hmove.quiet

lemma Opening.keeps (h : Opening b b') : Keeps b b' := by
  cases h with
  | move h => exact h.quiet.keeps
  | mode | fresh | loadCsv => exact { Keeps.refl b with }
  | unwind => exact { Keeps.refl b with unwinds := prefix_append _ _ }
  | linear => exact { Keeps.refl b with linear := prefix_append _ _ }
  | withClause => exact { Keeps.refl b with withClauses := prefix_append _ _ }
  | mutation => exact { Keeps.refl b with mutations := prefix_append _ _ }

lemma keeps_of_openings (h : Relation.ReflTransGen Opening b b') : Keeps b b' := by
  induction h with
  | refl => exact .refl _
  | tail _ hopening ih => exact ih.trans hopening.keeps

lemma Closing.keeps (h : Closing b b') :
    ∃ nodes, Keeps (flushCurrentPath { b with arena := ⟨b.arena.nodes ++ nodes⟩ }) b' := by
  cases h with
  | next h => exact ⟨[], by simpa using keeps_of_openings h⟩
  | node var labels hpending hstart =>
    refine ⟨[.nodePattern var labels []], ?_⟩
    rw [nodePattern_split hpending hstart]
    exact { Keeps.refl _ with }

variable {unicode : Unicode}

lemma procedureCall_run {c : Call} (hproc : c.isProcedure = false) :
    (c.run unicode b).procedureCall = b.procedureCall := by
  cases hc : c.closes b with
  | false => exact (quiet_of_moves (Call.moves_of_not_closes unicode hproc hc)).procedure
  | true =>
    obtain ⟨nodes, hkeeps⟩ := (Call.closing_of_closes unicode hproc hc).keeps
    exact hkeeps.procedure.trans (keeps_flush _).procedure

lemma procedureCall_after (calls : List Call) (hproc : ∀ c ∈ calls, c.isProcedure = false) :
    (after unicode b calls).procedureCall = b.procedureCall := by
  induction calls generalizing b with
  | nil => rfl
  | cons c calls ih =>
    have hrest := ih (b := c.run unicode b) fun d hd => hproc d (mem_cons_of_mem c hd)
    exact hrest.trans (procedureCall_run (hproc c mem_cons_self))

lemma build_spec (hproc : b.procedureCall = none) : ∃ more ret, b.build.1 = ⟨b.flushCurrentPath.arena.nodes ++ more⟩ ∧
      b.build.1.nodes[b.build.2]? = some (.queryStatement b.flushCurrentPath.executionMode
        b.flushCurrentPath.loadCsvClause b.flushCurrentPath.unwindClauses b.flushCurrentPath.matchClauses
        b.flushCurrentPath.linearClauses b.flushCurrentPath.withClauses b.flushCurrentPath.mutationClauses ret) := by
  unfold build
  rw [hproc]
  dsimp only
  generalize b.flushCurrentPath = s
  unfold buildReturn
  split
  · exact ⟨_, _, rfl, alloc_node ..⟩
  · exact ⟨_, _, congrArg QueryAstArena.mk (append_assoc ..), alloc_node ..⟩

end QueryBuilder

end Voyager
