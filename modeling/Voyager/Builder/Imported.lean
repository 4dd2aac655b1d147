import Voyager.Builder.Import
import Voyager.Builder.Patterns
import Voyager.Lib.Tracking

namespace Voyager

open Lib List Option

structure PathShape where
  optional : Bool
  pathVariable : Option String
  pathMode : PathMode
  nodes : List PathNode

namespace QueryAstArena

variable (a : QueryAstArena)

def pathShape (optional : Bool) (path : NodeHandle) : PathShape :=
  match a.nodes[path]? with
  | some (.pathChain var mode _ _) => ⟨optional, var, mode, a.pathNodes path⟩
  | _ => ⟨optional, none, .none, a.pathNodes path⟩

def matchShapes (clause : NodeHandle) : List PathShape :=
  match a.nodes[clause]? with
  | some (.matchClause optional paths _) => paths.map (a.pathShape optional)
  | _ => []

def nodeVar (x : PathNode) : Option String :=
  match a.nodes[x.node]? with
  | some (.nodePattern var _ _) => var
  | _ => none

def edgeVar (x : PathNode) : Option String :=
  match x.edge.bind (a.nodes[·]?) with
  | some (.edgePattern var _ _ _ _ _ _) => var
  | _ => none

def trees (predicates : List NodeHandle) : List (ℕ → Unfolding AstNode) :=
  predicates.map fun p depth => a.unfold depth p

def SameEdge (a a' : QueryAstArena) : Option NodeHandle → Option NodeHandle → Prop
  | none, none => True
  | some e, some e' => ∃ var labels direction min max predicates predicates' target target',
      a.nodes[e]? = some (.edgePattern var labels direction min max predicates target) ∧
        a'.nodes[e']? = some (.edgePattern var labels direction min max predicates' target') ∧
        a'.trees predicates' = a.trees predicates
  | _, _ => False

def isPlain (x : PathNode) : Bool :=
  (match a.nodes[x.node]? with
    | some (.nodePattern _ _ predicates) => predicates.isEmpty
    | _ => true) &&
  match x.edge.bind (a.nodes[·]?) with
  | some (.edgePattern _ _ _ min max predicates _) => predicates.isEmpty && min.isSome == max.isSome
  | _ => true

end QueryAstArena

namespace QueryBuilder

open QueryAstArena

variable (b : QueryBuilder)

def builtShapes : List PathShape := b.matchClauses.flatMap b.arena.matchShapes

def closedShapes : List PathShape := b.currentMatchPaths.map (b.arena.pathShape b.isOptionalMatch)

def openShape : Option PathShape :=
  b.currentPathStart.map fun s => ⟨b.isOptionalMatch, b.currentPathVariable, b.currentPathMode,
    ⟨none, s⟩ :: b.currentEdges.filterMap b.arena.edgeNode⟩

def shapes : List PathShape :=
  b.builtShapes ++ if b.matching then b.closedShapes ++ b.openShape.toList else []

def shapeNodes : List PathNode := b.shapes.flatMap (·.nodes)

/-- The variable stands on a node before this one, or on an edge before or to it. -/
def Mentions (x : PathNode) (v : String) : Prop :=
  ∃ y ∈ b.shapeNodes, y.node < x.node ∧ b.arena.nodeVar y = some v ∨ y.node ≤ x.node ∧ b.arena.edgeVar y = some v

def SameNode (a : QueryAstArena) (seen : Finset String) (b : QueryBuilder) (x x' : PathNode) : Prop :=
  ∃ var labels labels' predicates predicates', a.nodes[x.node]? = some (.nodePattern var labels predicates) ∧
    b.arena.nodes[x'.node]? = some (.nodePattern var labels' predicates') ∧
    b.arena.trees predicates' = a.trees predicates ∧
    (labels' = labels ∨ labels' = none ∧ ∃ v, var = some v ∧ (v ∈ seen ∨ b.Mentions x' v))

def SameShape (a : QueryAstArena) (seen : Finset String) (b : QueryBuilder) (s s' : PathShape) : Prop :=
  s'.optional = s.optional ∧ s'.pathVariable = s.pathVariable ∧ s'.pathMode = s.pathMode ∧
    List.Forall₂ (fun x x' => a.SameEdge b.arena x.edge x'.edge ∧ SameNode a seen b x x') s.nodes s'.nodes

def importOptional : Bool := !b.clauseMode.isNone && b.isOptionalMatch

def StartsAfresh : Prop :=
  b.pendingEdge = none ∧ (b.currentPathStart.isSome = true ∨
    b.currentEdges = [] ∧ b.currentPathVariable = none ∧ b.currentPathMode = .none)

/-- A path of which the import leaves nothing out but labels. -/
structure Importable (b : QueryBuilder) (a : QueryAstArena) (s : PathShape) : Prop where
  optional : s.optional = b.importOptional
  pathVariable : s.pathVariable = none
  pathMode : s.pathMode = .none
  plain : ∀ x ∈ s.nodes, a.isPlain x = true

variable {b b' b'' : QueryBuilder} {o o' : Outline} {a a' : QueryAstArena} {opt : Bool} {n : ℕ}
  {paths edges predicates : List NodeHandle} {clause path h : NodeHandle} {x x' : PathNode} {l : List PathNode}
  {var : Option String} {labels labels' : Option LabelExpression} {seen seen' : Finset String} {v : String}

lemma nodes_pathShape (a : QueryAstArena) (optional : Bool) (path : NodeHandle) :
    (a.pathShape optional path).nodes = a.pathNodes path := by
  unfold pathShape
  split <;> rfl

lemma nodes_map_pathShape {l : List (List PathNode)} (h : List.Forall₂ a.IsPath paths l) :
    (paths.map (a.pathShape opt)).flatMap (·.nodes) = l.flatten := by
  rw [flatMap_map, ← flatMap_pathNodes h]
  simp only [nodes_pathShape]

lemma paths_of_isClause {c : PatternClause} {condition : Option NodeHandle} (hc : a.IsClause clause c)
    (hn : a.nodes[clause]? = some (.matchClause opt paths condition)) :
    ∃ ls, List.Forall₂ a.IsPath paths ls ∧ c.2 = ls.flatten := by
  cases hc with
  | match_ hn' hpaths =>
    rw [hn] at hn'
    cases hn'
    exact ⟨_, hpaths, rfl⟩
  | create hn' | merge hn' =>
    rw [hn] at hn'
    cases hn'
  | write hn' hwrite =>
    rw [hn] at hn'
    cases hn'
    cases hwrite

lemma nodes_matchShapes {c : PatternClause} (hc : a.IsClause clause c)
    (hn : ∃ optional paths condition, a.nodes[clause]? = some (.matchClause optional paths condition)) :
    (a.matchShapes clause).flatMap (·.nodes) = c.2 := by
  obtain ⟨optional, paths, condition, hn⟩ := hn
  obtain ⟨ls, hpaths, hflat⟩ := paths_of_isClause hc hn
  rw [matchShapes, hn, hflat]
  exact nodes_map_pathShape hpaths

lemma nodes_builtShapes (hd : Draws b o) : b.builtShapes.flatMap (·.nodes) = o.reads.flatMap (·.2) := by
  have hclauses : ∀ {clauses : List NodeHandle} {cs : List PatternClause},
      List.Forall₂ b.arena.IsClause clauses cs → (∀ h ∈ clauses, h ∈ b.matchClauses) →
      (clauses.flatMap b.arena.matchShapes).flatMap (·.nodes) = cs.flatMap (·.2) := by
    intro clauses cs h hall
    induction h with
    | nil => rfl
    | cons hc _ ih =>
      rw [flatMap_cons, flatMap_append, flatMap_cons, ih fun h hh => hall h (by simp [hh]),
        nodes_matchShapes hc (hd.matches_ _ (hall _ (by simp)))]
  exact hclauses hd.reads fun _ hh => hh

lemma openShape_nodes (hd : Draws b o) :
    b.openShape.toList.flatMap (·.nodes) = (o.start.map fun s => ⟨none, s⟩ :: o.edges).toList.flatten := by
  unfold openShape
  rw [hd.start]
  cases b.currentPathStart with
  | none => rfl
  | some s => simp [filterMap_edgeNode hd.edges]

lemma shapeNodes_eq (hd : Draws b o) (hm : b.matching = true) :
    b.shapeNodes = o.reads.flatMap (·.2) ++ o.current.flatten := by
  unfold shapeNodes shapes Outline.current closedShapes
  rw [if_pos hm, flatMap_append, flatMap_append, nodes_builtShapes hd, openShape_nodes hd,
    nodes_map_pathShape hd.paths, flatten_append]

lemma lt_of_shapeNodes (hd : Draws b o) (hm : b.matching = true) (hx : x ∈ b.shapeNodes) : x.node < b.arena.len := by
  rw [shapeNodes_eq hd hm] at hx
  rcases mem_append.mp hx with hx | hx
  · obtain ⟨c, hc, hx⟩ := mem_flatMap.mp hx
    exact hd.below x (.inr ⟨c, mem_append_left _ hc, hx⟩)
  · exact hd.below x (.inl (mem_append_left _ hx))

lemma Grows.settles {a : QueryAstArena} (h : a.Grows a') : a.Settles a' := List.IsPrefix.map _ h

structure Extends (b b' : QueryBuilder) : Prop where
  arena : b.arena.Grows b'.arena
  nodes : b.shapeNodes ⊆ b'.shapeNodes
  closed : b.closedShapes ⊆ b'.closedShapes

lemma Extends.refl (b : QueryBuilder) : Extends b b := ⟨.refl _, List.Subset.refl _, List.Subset.refl _⟩

lemma Extends.trans (h : Extends b b') (h' : Extends b' b'') : Extends b b'' :=
  ⟨h.arena.trans h'.arena, List.Subset.trans h.nodes h'.nodes, List.Subset.trans h.closed h'.closed⟩

lemma nodeVar_mono {a a' : QueryAstArena} (h : a.Grows a') (hx : a.nodeVar x = some v) : a'.nodeVar x = some v := by
  unfold nodeVar at hx ⊢
  cases hn : a.nodes[x.node]? with
  | none => simp [hn] at hx
  | some n => rwa [h.node hn, ← hn]

lemma edgeVar_mono {a a' : QueryAstArena} (h : a.Grows a') (hx : a.edgeVar x = some v) : a'.edgeVar x = some v := by
  unfold edgeVar at hx ⊢
  cases he : x.edge with
  | none => simp [he] at hx
  | some e =>
    rw [he, bind_some] at hx
    rw [bind_some]
    cases hn : a.nodes[e]? with
    | none => simp [hn] at hx
    | some n => rwa [h.node hn, ← hn]

lemma Extends.mentions (h : Extends b b') (hv : b.Mentions x v) : b'.Mentions x v := by
  obtain ⟨y, hy, hv⟩ := hv
  refine ⟨y, h.nodes hy, ?_⟩
  exact hv.imp (.imp_right (nodeVar_mono h.arena)) (.imp_right (edgeVar_mono h.arena))

lemma pathShape_grows (ha : a.Grows a') {path : NodeHandle} (hp : a.IsPath path l) :
    a'.pathShape opt path = a.pathShape opt path := by
  have hnodes : a'.pathNodes path = a.pathNodes path := by
    rw [(hp.mono (Grows.settles ha)).pathNodes_eq, hp.pathNodes_eq]
  unfold pathShape
  rw [hnodes]
  cases hp with
  | node hn | chain hn => rw [hn, ha.node hn]

lemma closedShapes_grows (hd : Draws b o) (ha : b.arena.Grows b'.arena)
    (hpaths : b.currentMatchPaths <+: b'.currentMatchPaths) (hopt : b'.isOptionalMatch = b.isOptionalMatch) :
    b.closedShapes ⊆ b'.closedShapes := by
  intro s hs
  obtain ⟨path, hpath, rfl⟩ := mem_map.mp hs
  obtain ⟨l, hp⟩ := exists_of_forall₂ hd.paths hpath
  refine mem_map.mpr ⟨path, hpaths.subset hpath, ?_⟩
  rw [hopt, pathShape_grows ha hp]

lemma extends_of_step (hd : Draws b o) (hd' : Draws b' o') (hstep : o.Step n o') (hm : b.matching = true)
    (hm' : b'.matching = true) (ha : b.arena.Grows b'.arena) (hpaths : b.currentMatchPaths <+: b'.currentMatchPaths)
    (hopt : b'.isOptionalMatch = b.isOptionalMatch) : Extends b b' := by
  refine ⟨ha, ?_, closedShapes_grows hd ha hpaths hopt⟩
  rw [shapeNodes_eq hd hm, shapeNodes_eq hd' hm', hstep.reads_eq]
  exact append_subset.mpr ⟨subset_append_left _ _,
    List.Subset.trans hstep.current_subset (subset_append_right _ _)⟩

inductive CopiedEdge (a a' : QueryAstArena) : Option NodeHandle → Option NodeHandle → Prop
  | none : CopiedEdge a a' none none
  | some {e e' target target' : NodeHandle} {var : Option String} {labels : Option LabelExpression}
      {direction : Direction} {min max : Option ℕ}
      (hn : a.nodes[e]? = some (.edgePattern var labels direction min max [] target))
      (hn' : a'.nodes[e']? = some (.edgePattern var labels direction min max [] target')) :
      CopiedEdge a a' (some e) (some e')

structure Copied (a : QueryAstArena) (seen : Finset String) (b : QueryBuilder) (x x' : PathNode) : Prop where
  edge : a.isPlain x = true → CopiedEdge a b.arena x.edge x'.edge
  node : ∃ var labels labels' predicates, a.nodes[x.node]? = some (.nodePattern var labels predicates) ∧
    b.arena.nodes[x'.node]? = some (.nodePattern var labels' []) ∧
    (labels' = labels ∨ labels' = none ∧ ∃ v, var = some v ∧ (v ∈ seen ∨ b.Mentions x' v))

variable {e e' : Option NodeHandle}

lemma CopiedEdge.mono {a₁ a₂ : QueryAstArena} (ha : a₁.Grows a₂) (h : CopiedEdge a a₁ e e') :
    CopiedEdge a a₂ e e' := by
  cases h with
  | none => exact .none
  | some he he' => exact .some he (ha.node he')

lemma CopiedEdge.same (h : CopiedEdge a a' e e') : a.SameEdge a' e e' := by
  cases h with
  | none => trivial
  | some he he' => exact ⟨_, _, _, _, _, [], [], _, _, he, he', rfl⟩

lemma Copied.mono (h : Extends b b') (hx : Copied a seen b x x') : Copied a seen b' x x' := by
  obtain ⟨hedge, var, labels, labels', predicates, hn, hn', hlabels⟩ := hx
  refine ⟨fun hplain => (hedge hplain).mono h.arena, var, labels, labels', predicates, hn, h.arena.node hn', ?_⟩
  exact hlabels.imp_right fun ⟨hnone, v, hv, hseen⟩ => ⟨hnone, v, hv, hseen.imp_right h.mentions⟩

lemma Copied.same (hx : Copied a seen b x x') (hplain : a.isPlain x = true) :
    a.SameEdge b.arena x.edge x'.edge ∧ SameNode a seen b x x' := by
  obtain ⟨hedge, var, labels, labels', predicates, hn, hn', hlabels⟩ := hx
  have hnil : predicates = [] := by
    simp only [isPlain, hn, Bool.and_eq_true, List.isEmpty_iff] at hplain
    exact hplain.1
  exact ⟨(hedge hplain).same, var, labels, labels', predicates, [], hn, hn', by rw [hnil]; rfl, hlabels⟩

lemma declared_spec (var : Option String) (labels : Option LabelExpression) (seen : Finset String) :
    (declared var labels seen).2 = seen ∪ var.toFinset ∧ ((declared var labels seen).1 = labels ∨
      (declared var labels seen).1 = none ∧ ∃ v, var = some v ∧ v ∈ seen) := by
  unfold declared
  cases var with
  | none => simp
  | some v =>
    dsimp only
    by_cases hv : v ∈ seen
    · rw [if_pos hv]
      exact ⟨by simp [hv], .inr ⟨rfl, v, rfl, hv⟩⟩
    · rw [if_neg hv]
      exact ⟨by simp, .inl rfl⟩

/-- Whatever is seen by now was seen at first or stands in a pattern. -/
def Accounts (seen : Finset String) (s : QueryBuilder × Finset String) : Prop :=
  ∀ v ∈ s.2, v ∈ seen ∨ ∃ y ∈ s.1.shapeNodes, s.1.arena.nodeVar y = some v ∨ s.1.arena.edgeVar y = some v

lemma Accounts.mono (h : Accounts seen (b, seen')) (hext : Extends b b') : Accounts seen (b', seen') := by
  intro v hv
  refine (h v hv).imp_right fun ⟨y, hy, hvar⟩ => ⟨y, hext.nodes hy, ?_⟩
  exact hvar.imp (nodeVar_mono hext.arena) (edgeVar_mono hext.arena)

structure Between (opt : Bool) (b : QueryBuilder) : Prop where
  draws : ∃ o, Draws b o
  matching : b.matching = true
  optional : b.isOptionalMatch = opt
  afresh : b.StartsAfresh

structure Fresh (opt : Bool) (b : QueryBuilder) : Prop where
  draws : ∃ o, Draws b o
  matching : b.matching = true
  optional : b.isOptionalMatch = opt
  pending : b.pendingEdge = none
  start : b.currentPathStart = none
  edges : b.currentEdges = []
  var : b.currentPathVariable = none
  mode : b.currentPathMode = .none

structure Drawing (opt : Bool) (b : QueryBuilder) (l : List PathNode) : Prop where
  draws : ∃ o, Draws b o
  matching : b.matching = true
  optional : b.isOptionalMatch = opt
  pending : b.pendingEdge = none
  openShape : b.openShape = some ⟨opt, none, .none, l⟩

lemma Drawing.start (h : Drawing opt b l) : b.currentPathStart.isSome = true := by
  have hopen := h.openShape
  unfold QueryBuilder.openShape at hopen
  obtain ⟨s, hs, -⟩ := map_eq_some_iff.mp hopen
  rw [hs]
  rfl

lemma Drawing.between (h : Drawing opt b l) : Between opt b :=
  ⟨h.draws, h.matching, h.optional, h.pending, .inl h.start⟩

lemma importNode_eq
    (hn : a.nodes[h]? = some (.nodePattern var labels predicates)) (s : QueryBuilder × Finset String) :
    importNode a h s = (s.1.nodePatternInternal var (declared var labels s.2).1, (declared var labels s.2).2) := by
  unfold importNode
  rw [get_eq_ok.mpr hn]

structure Advances (a : QueryAstArena) (opt : Bool) (seen : Finset String) (b : QueryBuilder)
    (s : QueryBuilder × Finset String) (l : List PathNode) (x x' : PathNode) : Prop where
  drawing : Drawing opt s.1 (l ++ [x'])
  ext : Extends b s.1
  copied : Copied a seen s.1 x x'
  accounts : Accounts seen s

lemma advances_of_node {edgeVar : Option String} (hd : Draws b o) (hm : b.matching = true)
    (hdrawing : Drawing opt b' (l ++ [x'])) (hext : Extends b b')
    (hedge : a.isPlain x = true → CopiedEdge a b'.arena x.edge x'.edge) (hvar : b'.arena.edgeVar x' = edgeVar)
    (hnode : x'.node = b.arena.len) (hn : a.nodes[x.node]? = some (.nodePattern var labels predicates))
    (hn' : b'.arena.nodes[x'.node]? =
      some (.nodePattern var (declared var labels (seen' ∪ edgeVar.toFinset)).1 []))
    (haccounts : Accounts seen (b, seen')) :
    Advances a opt seen b (b', (declared var labels (seen' ∪ edgeVar.toFinset)).2) l x x' := by
  obtain ⟨hseen, hlabels⟩ := declared_spec var labels (seen' ∪ edgeVar.toFinset)
  have hx : x' ∈ b'.shapeNodes := by
    refine mem_flatMap.mpr ⟨⟨opt, none, .none, l ++ [x']⟩, ?_, by simp⟩
    unfold shapes
    rw [if_pos hdrawing.matching, hdrawing.openShape]
    simp
  refine ⟨hdrawing, hext, ⟨hedge, var, labels, _, predicates, hn, hn', ?_⟩, ?_⟩
  · refine hlabels.imp_right fun ⟨hnone, v, hv, hmem⟩ => ⟨hnone, v, hv, ?_⟩
    rcases Finset.mem_union.mp hmem with hmem | hmem
    · refine (haccounts v hmem).imp_right fun ⟨y, hy, hvars⟩ => ⟨y, hext.nodes hy, ?_⟩
      have hlt : y.node < x'.node := hnode ▸ lt_of_shapeNodes hd hm hy
      exact hvars.imp (fun h => ⟨hlt, nodeVar_mono hext.arena h⟩) fun h => ⟨hlt.le, edgeVar_mono hext.arena h⟩
    · exact .inr ⟨x', hx, .inr ⟨le_rfl, by simpa [hvar] using hmem⟩⟩
  · rw [hseen]
    intro v hv
    rcases Finset.mem_union.mp hv with hv | hv
    · rcases Finset.mem_union.mp hv with hv | hv
      · exact haccounts.mono hext v hv
      · exact .inr ⟨x', hx, .inr (by simpa [hvar] using hv)⟩
    · refine .inr ⟨x', hx, .inl ?_⟩
      rw [nodeVar, hn']
      simpa using hv

lemma importStart (hb : Fresh opt b) (hn : a.nodes[h]? = some (.nodePattern var labels predicates))
    (haccounts : Accounts seen (b, seen')) :
    ∃ x', Advances a opt seen b (importNode a h (b, seen')) [] ⟨none, h⟩ x' := by
  obtain ⟨o, hd⟩ := hb.draws
  have hd' := hd.startNodeAt var (declared var labels seen').1 hb.pending hb.start
  rw [nodePattern_start hb.pending hb.start] at hd'
  rw [importNode_eq hn, nodePattern_start hb.pending hb.start]
  have hext := extends_of_step hd hd' (.startAt _ (hd.start.trans hb.start) le_rfl) hb.matching hb.matching
    (prefix_append _ _) prefix_rfl rfl
  have hseen : seen' ∪ (none : Option String).toFinset = seen' := by simp
  refine ⟨⟨none, b.arena.len⟩, ?_⟩
  rw [← hseen] at hd' hext ⊢
  refine advances_of_node hd hb.matching ⟨⟨_, hd'⟩, hb.matching, hb.optional, hb.pending, ?_⟩ hext (fun _ => .none) rfl rfl
    hn getElem?_concat_length haccounts
  simp [openShape, hb.optional, hb.var, hb.mode, hb.edges]

lemma importHops_eq (b : QueryBuilder) (edgeVar : Option String) (edgeLabels : Option LabelExpression)
    (direction : Direction) (min max : Option ℕ) :
    ∃ min' max', (b.edgeExprOpt direction edgeLabels edgeVar).importHops min max =
        { b with pendingEdge := some ⟨direction, edgeLabels, edgeVar, min', max'⟩ } ∧
      (min.isSome = max.isSome → min' = min ∧ max' = max) := by
  unfold importHops
  cases min with
  | none =>
    cases max with
    | none => exact ⟨none, none, rfl, fun _ => ⟨rfl, rfl⟩⟩
    | some max => exact ⟨some 1, some max, rfl, nofun⟩
  | some min =>
    cases max with
    | none => exact ⟨some min, some min, rfl, nofun⟩
    | some max => exact ⟨some min, some max, rfl, fun _ => ⟨rfl, rfl⟩⟩

lemma importEdge_advances {e : NodeHandle} (hb : Drawing opt b l) (he : a.IsEdge e x)
    (haccounts : Accounts seen (b, seen')) : ∃ x', Advances a opt seen b (importEdge a (b, seen') e) l x x' := by
  obtain ⟨o, hd⟩ := hb.draws
  obtain ⟨s, hs⟩ := isSome_iff_exists.mp hb.start
  obtain ⟨he, var, labels, predicates, hn⟩ := he
  rename_i edgeVar edgeLabels direction min max edgePredicates target
  obtain ⟨min', max', hhops, hbounds⟩ := importHops_eq b edgeVar edgeLabels direction min max
  have hcopied : ∀ {a' : QueryAstArena} {e' target' : NodeHandle}, a'.nodes[e']? =
      some (.edgePattern edgeVar edgeLabels direction min' max' [] target') →
        a.isPlain ⟨some e, target⟩ = true → CopiedEdge a a' (some e) (some e') := by
    intro a' e' target' hn' hplain
    obtain ⟨-, rfl, hsome⟩ : predicates = [] ∧ edgePredicates = [] ∧ min.isSome = max.isSome := by
      simpa [isPlain, he, hn] using hplain
    obtain ⟨rfl, rfl⟩ := hbounds hsome
    exact .some he hn'
  set pending : PendingEdge := ⟨direction, edgeLabels, edgeVar, min', max'⟩
  have himport : importEdge a (b, seen') e =
      (nodePatternInternal var (declared var labels (seen' ∪ edgeVar.toFinset)).1 { b with pendingEdge := some pending },
        (declared var labels (seen' ∪ edgeVar.toFinset)).2) := by
    unfold importEdge
    rw [get_eq_ok.mpr he]
    dsimp only
    rw [hhops, importNode_eq hn]
  have hd₁ : Draws { b with pendingEdge := some pending } o := { hd with }
  have hd' := hd₁.edgeNode var (declared var labels (seen' ∪ edgeVar.toFinset)).1 rfl
  have hn' := node_nodePattern var (declared var labels (seen' ∪ edgeVar.toFinset)).1
    { b with pendingEdge := some pending }
  have he' := edge_nodePattern (b := { b with pendingEdge := some pending }) var
    (declared var labels (seen' ∪ edgeVar.toFinset)).1 rfl
  rw [nodePattern_edge rfl] at hd' hn' he'
  rw [himport, nodePattern_edge rfl]
  have hext := extends_of_step hd hd' (.edgeTo _ _ le_rfl) hb.matching hb.matching (prefix_append _ _)
    prefix_rfl rfl
  have hedges := filterMap_edgeNode hd'.edges
  have hopen := hb.openShape
  unfold openShape at hopen
  rw [hs, map_some, some_inj, PathShape.mk.injEq, filterMap_edgeNode hd.edges] at hopen
  obtain ⟨-, hvar, hmode, rfl⟩ := hopen
  refine ⟨⟨some (b.arena.len + 1), b.arena.len⟩, advances_of_node hd hb.matching
    ⟨⟨_, hd'⟩, hb.matching, hb.optional, rfl, ?_⟩ hext (hcopied he') ?_ rfl hn hn' haccounts⟩
  · unfold openShape
    dsimp only at hedges ⊢
    rw [hs, hedges, hb.optional, hvar, hmode]
    rfl
  · unfold QueryAstArena.edgeVar
    rw [bind_some]
    dsimp only at he' ⊢
    rw [he']

lemma importEdges {l₂ : List PathNode} (h : List.Forall₂ a.IsEdge edges l₂) {l l₁ : List PathNode}
    (hb : Drawing opt b l) (hcopied : List.Forall₂ (Copied a seen b) l₁ l) (haccounts : Accounts seen (b, seen')) :
    ∃ l', Drawing opt (edges.foldl (importEdge a) (b, seen')).1 l' ∧
      Extends b (edges.foldl (importEdge a) (b, seen')).1 ∧
      List.Forall₂ (Copied a seen (edges.foldl (importEdge a) (b, seen')).1) (l₁ ++ l₂) l' ∧
      Accounts seen (edges.foldl (importEdge a) (b, seen')) := by
  induction h generalizing b seen' l l₁ with
  | nil => exact ⟨l, hb, .refl b, by simpa using hcopied, haccounts⟩
  | @cons e x edges l₂ he _ ih =>
    obtain ⟨x', hadv⟩ := importEdge_advances hb he haccounts
    have hcopied' := rel_append (hcopied.imp fun _ _ hx => hx.mono hadv.ext) (.cons hadv.copied .nil)
    obtain ⟨l', hdrawing, hext, hall, hrest⟩ := ih hadv.drawing hcopied' hadv.accounts
    refine ⟨l', hdrawing, hadv.ext.trans hext, ?_, hrest⟩
    rwa [append_assoc] at hall

lemma modes_of_matching (hm : b.matching = true) : b.clauseMode ≠ some .create ∧ b.clauseMode ≠ some .merge := by
  unfold matching at hm
  split at hm <;> simp_all

lemma Between.pattern (hb : Between opt b) :
    Fresh opt b.pattern ∧ Extends b b.pattern ∧ b.closedShapes ++ b.openShape.toList ⊆ b.pattern.closedShapes := by
  obtain ⟨o, hd⟩ := hb.draws
  obtain ⟨hpending, hafresh⟩ := hb.afresh
  rcases eq_none_or_eq_some b.currentPathStart with hstart | ⟨s, hs⟩
  · have hsame : b.pattern = b := by simp [QueryBuilder.pattern, takePath_none hstart]
    obtain ⟨hedges, hvar, hmode⟩ := hafresh.resolve_left (by simp [hstart])
    rw [hsame]
    exact ⟨⟨⟨o, hd⟩, hb.matching, hb.optional, hpending, hstart, hedges, hvar, hmode⟩, .refl b, by simp [openShape, hstart]⟩
  · have hd' := hd.pattern
    obtain ⟨path, more, var, mode, htake, hkept, hpath⟩ := takePath_some hs
    have hpattern : b.pattern = { b with
        arena := ⟨b.arena.nodes ++ more⟩, currentPathStart := none, currentPathMode := .none
        currentPathVariable := none, currentEdges := [], currentMatchPaths := b.currentMatchPaths ++ [path] } := by
      simp [QueryBuilder.pattern, htake]
    have hext : Extends b b.pattern := by
      refine extends_of_step hd hd' (.pattern (n := 0)) hb.matching ?_ ?_ ?_ ?_ <;> rw [hpattern]
      · exact hb.matching
      · exact prefix_append _ _
      · exact prefix_append _ _
    have hopen : b.openShape = some ((QueryAstArena.mk (b.arena.nodes ++ more)).pathShape b.isOptionalMatch path) := by
      obtain ⟨hcreate, hmerge⟩ := modes_of_matching hb.matching
      obtain ⟨hvar, hmode⟩ := hkept hcreate hmerge
      unfold openShape
      rw [hs, map_some, some_inj, ← hvar, ← hmode]
      rcases hpath with ⟨rfl, rfl, hedges, rfl, rfl⟩ | ⟨rfl, rfl⟩
      · obtain ⟨_, _, _, hn⟩ := hd.startNode path hs
        simp [pathShape, pathNodes, hn, hedges]
      · have hn : (b.arena.nodes ++ [.pathChain var mode s b.currentEdges])[b.arena.len]? =
            some (.pathChain var mode s b.currentEdges) :=
          getElem?_concat_length
        have hedges := filterMap_edgeNode (hd.extend [.pathChain var mode s b.currentEdges]).edges
        simp only [pathShape, pathNodes, hn, filterMap_edgeNode hd.edges]
        rw [hedges]
    refine ⟨⟨⟨_, hd'⟩, ?_, ?_, ?_, ?_, ?_, ?_, ?_⟩, hext, ?_⟩
    all_goals rw [hpattern]
    · exact hb.matching
    · exact hb.optional
    · exact hpending
    · rw [hopen]
      refine append_subset.mpr ⟨?_, ?_⟩
      · have hclosed := hext.closed
        rwa [hpattern] at hclosed
      · simp [closedShapes]

def Imports (a : QueryAstArena) (opt : Bool) (seen : Finset String) (b : QueryBuilder) (l : List PathNode) : Prop :=
  ∃ l', (⟨opt, none, .none, l'⟩ : PathShape) ∈ b.closedShapes ++ b.openShape.toList ∧ List.Forall₂ (Copied a seen b) l l'

structure Continues (opt : Bool) (seen : Finset String) (b : QueryBuilder) (s : QueryBuilder × Finset String) : Prop where
  between : Between opt s.1
  ext : Extends b s.1
  shapes : b.closedShapes ++ b.openShape.toList ⊆ s.1.closedShapes ++ s.1.openShape.toList
  accounts : Accounts seen s

lemma Imports.mono (h : Imports a opt seen b l) (hext : Extends b b')
    (hshapes : b.closedShapes ++ b.openShape.toList ⊆ b'.closedShapes ++ b'.openShape.toList) :
    Imports a opt seen b' l := by
  obtain ⟨l', hl', hcopied⟩ := h
  exact ⟨l', hshapes hl', hcopied.imp fun _ _ hx => hx.mono hext⟩

lemma Continues.trans {s s' : QueryBuilder × Finset String} (h : Continues opt seen b s)
    (h' : Continues opt seen s.1 s') : Continues opt seen b s' :=
  ⟨h'.between, h.ext.trans h'.ext, List.Subset.trans h.shapes h'.shapes, h'.accounts⟩

lemma pattern_eq (b : QueryBuilder) :
    (if b.currentPathStart.isSome || !b.currentMatchPaths.isEmpty then b.pattern else b) = b.pattern := by
  split_ifs with h
  · rfl
  · have hstart : b.currentPathStart = none := by simp_all
    simp [QueryBuilder.pattern, takePath_none hstart]

lemma importPath_node
    (hn : a.nodes[path]? = some (.nodePattern var labels predicates)) (b : QueryBuilder) (seen : Finset String) :
    importPath a (b, seen) path = importNode a path (b.pattern, seen) := by
  unfold importPath
  rw [get_eq_ok.mpr hn]
  dsimp only
  rw [pattern_eq]

lemma importPath_chain {mode : PathMode} {startNode : NodeHandle}
    (hn : a.nodes[path]? = some (.pathChain var mode startNode edges)) (b : QueryBuilder) (seen : Finset String) :
    importPath a (b, seen) path = edges.foldl (importEdge a) (importNode a startNode (b.pattern, seen)) := by
  unfold importPath
  rw [get_eq_ok.mpr hn]
  dsimp only
  rw [pattern_eq]

lemma importPath_spec (hb : Between opt b) (hp : a.IsPath path l) (haccounts : Accounts seen (b, seen')) :
    Continues opt seen b (importPath a (b, seen') path) ∧ Imports a opt seen (importPath a (b, seen') path).1 l := by
  obtain ⟨hfresh, hext, hclosed⟩ := hb.pattern
  have haccounts' := haccounts.mono hext
  -- The path is drawn as the open one, after the others were closed.
  have hdone : ∀ (s : QueryBuilder × Finset String) (l' : List PathNode), Drawing opt s.1 l' →
      Extends b.pattern s.1 → List.Forall₂ (Copied a seen s.1) l l' → Accounts seen s →
      Continues opt seen b s ∧ Imports a opt seen s.1 l := by
    intro s l' hdrawing hext' hcopied hrest
    refine ⟨⟨hdrawing.between, hext.trans hext', ?_, hrest⟩, l', ?_, hcopied⟩
    · exact List.Subset.trans hclosed (List.Subset.trans hext'.closed (subset_append_left _ _))
    · rw [hdrawing.openShape]
      simp
  cases hp with
  | node hn =>
    rw [importPath_node hn]
    obtain ⟨x', hadv⟩ := importStart hfresh hn haccounts'
    exact hdone _ _ hadv.drawing hadv.ext (.cons hadv.copied .nil) hadv.accounts
  | chain hn hnode hedges' =>
    rw [importPath_chain hn]
    obtain ⟨_, _, _, hs⟩ := hnode
    obtain ⟨x', hadv⟩ := importStart hfresh hs haccounts'
    obtain ⟨l', hdrawing, hext', hcopied, hrest⟩ :=
      importEdges hedges' hadv.drawing (.cons hadv.copied .nil) hadv.accounts
    exact hdone _ _ hdrawing (hadv.ext.trans hext') hcopied hrest

lemma importPaths_spec {ls : List (List PathNode)} (h : List.Forall₂ a.IsPath paths ls) (hb : Between opt b)
    (haccounts : Accounts seen (b, seen')) :
    Continues opt seen b (paths.foldl (importPath a) (b, seen')) ∧
      ∀ l ∈ ls, Imports a opt seen (paths.foldl (importPath a) (b, seen')).1 l := by
  induction h generalizing b seen' with
  | nil => exact ⟨⟨hb, .refl b, List.Subset.refl _, haccounts⟩, by simp⟩
  | @cons path l paths ls hp _ ih =>
    obtain ⟨hcont, himports⟩ := importPath_spec hb hp haccounts
    obtain ⟨hcont', himports'⟩ := ih hcont.between hcont.accounts
    refine ⟨hcont.trans hcont', fun m hmem => ?_⟩
    rcases mem_cons.mp hmem with rfl | hmem
    · exact himports.mono hcont'.ext hcont'.shapes
    · exact himports' m hmem

lemma importWhere_spec (hb : Between opt b) (condition : Option NodeHandle) (haccounts : Accounts seen (b, seen')) :
    Continues opt seen b (b.importWhere a condition, seen') := by
  unfold importWhere
  split
  · rename_i root _
    obtain ⟨o, hd⟩ := hb.draws
    have hd' : Draws ((b.importSubarena a root).2.whereExpr (b.importSubarena a root).1) o := { hd.extend _ with }
    have hext : Extends b ((b.importSubarena a root).2.whereExpr (b.importSubarena a root).1) :=
      extends_of_step hd hd' (.silent (n := 0)) hb.matching hb.matching (prefix_append _ _) prefix_rfl rfl
    have hopen : ((b.importSubarena a root).2.whereExpr (b.importSubarena a root).1).openShape = b.openShape := by
      have hedges := filterMap_edgeNode hd'.edges
      rw [← filterMap_edgeNode hd.edges] at hedges
      unfold openShape
      rw [hedges]
      rfl
    refine ⟨⟨⟨o, hd'⟩, hb.matching, hb.optional, hb.afresh⟩, hext, ?_, haccounts.mono hext⟩
    change _ ⊆ QueryBuilder.closedShapes _ ++
      ((b.importSubarena a root).2.whereExpr (b.importSubarena a root).1).openShape.toList
    rw [hopen]
    exact append_subset.mpr ⟨List.Subset.trans hext.closed (subset_append_left _ _),
      subset_append_right _ _⟩
  · exact ⟨hb, .refl b, List.Subset.refl _, haccounts⟩

def Readable (a : QueryAstArena) (clause : NodeHandle) : Prop :=
  ∃ optional paths condition ls, a.nodes[clause]? = some (.matchClause optional paths condition) ∧
    List.Forall₂ a.IsPath paths ls

lemma importMatch_spec (hc : Readable a clause) (hb : Between opt b) (haccounts : Accounts seen (b, seen')) :
    Continues opt seen b (importMatch a (b, seen') clause) ∧
      ∀ s ∈ a.matchShapes clause, Imports a opt seen (importMatch a (b, seen') clause).1 s.nodes := by
  obtain ⟨optional, paths, condition, ls, hn, hpaths⟩ := hc
  have hshapes : a.matchShapes clause = paths.map (a.pathShape optional) := by rw [matchShapes, hn]
  obtain ⟨hcont, himports⟩ := importPaths_spec hpaths hb haccounts
  have hwhere := importWhere_spec (a := a) hcont.between condition hcont.accounts
  have hmatch : importMatch a (b, seen') clause =
      ((paths.foldl (importPath a) (b, seen')).1.importWhere a condition, (paths.foldl (importPath a) (b, seen')).2) := by
    unfold importMatch
    rw [get_eq_ok.mpr hn]
  rw [hmatch, hshapes]
  refine ⟨hcont.trans hwhere, fun s hs => ?_⟩
  obtain ⟨path, hpath, rfl⟩ := mem_map.mp hs
  have hl : a.pathNodes path ∈ ls := map_pathNodes hpaths ▸ mem_map_of_mem hpath
  rw [nodes_pathShape]
  exact (himports _ hl).mono hwhere.ext hwhere.shapes

lemma importMatches_spec {clauses : List NodeHandle} (hclauses : ∀ c ∈ clauses, Readable a c) (hb : Between opt b)
    (haccounts : Accounts seen (b, seen')) :
    Continues opt seen b (clauses.foldl (importMatch a) (b, seen')) ∧
      ∀ s ∈ clauses.flatMap a.matchShapes, Imports a opt seen (clauses.foldl (importMatch a) (b, seen')).1 s.nodes := by
  induction clauses generalizing b seen' with
  | nil => exact ⟨⟨hb, .refl b, List.Subset.refl _, haccounts⟩, by simp⟩
  | cons clause clauses ih =>
    obtain ⟨hcont, himports⟩ := importMatch_spec (hclauses clause mem_cons_self) hb haccounts
    obtain ⟨hcont', himports'⟩ := ih (fun c hc => hclauses c (mem_cons_of_mem clause hc)) hcont.between hcont.accounts
    refine ⟨hcont.trans hcont', fun s hs => ?_⟩
    rw [flatMap_cons] at hs
    rcases mem_append.mp hs with hs | hs
    · exact (himports s hs).mono hcont'.ext hcont'.shapes
    · exact himports' s hs

lemma readable_of_draws (hd : Draws b o) : ∀ c ∈ b.matchClauses, Readable b.arena c := by
  intro c hc
  obtain ⟨optional, paths, condition, hn⟩ := hd.matches_ c hc
  obtain ⟨d, hclause⟩ := exists_of_forall₂ hd.reads hc
  obtain ⟨ls, hpaths, -⟩ := paths_of_isClause hclause hn
  exact ⟨optional, paths, condition, ls, hn, hpaths⟩

def importTarget (b : QueryBuilder) : QueryBuilder := if b.clauseMode.isNone then b.match_ else b

lemma StartsAfresh.flush (h : b.StartsAfresh) (hmode : b.clauseMode ≠ some .with_) :
    b.flushCurrentPath.StartsAfresh := by
  obtain ⟨hpending, hafresh⟩ := h
  obtain ⟨_, _, _, _, _, _, _, _, _, hflush, -, hpath⟩ := flush_path hmode
  rw [hflush]
  refine ⟨hpending, .inr ?_⟩
  rcases hpath with hnone | ⟨hnone, rfl, rfl, rfl⟩
  · exact hnone
  · exact hafresh.resolve_left (by simp [hnone])

lemma importTarget_spec (hd : Draws b o) (hm : b.matching = true) (hafresh : b.StartsAfresh) :
    Between b.importOptional b.importTarget := by
  unfold importTarget importOptional
  cases hnone : b.clauseMode with
  | some mode => exact ⟨⟨o, hd⟩, hm, rfl, hafresh⟩
  | none =>
    obtain ⟨o', -, hd'⟩ := hd.flush
    have hd'' : Draws b.match_ { o' with mode := some .match_, optional := false } :=
      { hd' with mode := rfl, optional := rfl }
    exact ⟨⟨_, hd''⟩, rfl, rfl, hafresh.flush (by rw [hnone]; simp)⟩

/-- A path of a MATCH of the other builder is among the paths of this one with all that stands on it, but for labels of
nodes whose variable was seen before the import or stands on an earlier part of the patterns. -/
theorem import_keeps_patterns (unicode : Unicode) (calls otherCalls : List Call) (seen : Finset String)
    (hmatching : (after unicode new calls).matching = true) (hafresh : (after unicode new calls).StartsAfresh) :
    let b := after unicode new calls
    let other := (after unicode new otherCalls).flushCurrentPath
    let b' := (b.importMatchPatterns (after unicode new otherCalls) seen).1
    ∀ s ∈ other.builtShapes, Importable b other.arena s → ∃ s' ∈ b'.shapes, SameShape other.arena seen b' s s' := by
  obtain ⟨o, hd⟩ := exists_draws_after unicode calls ⟨_, draws_new⟩
  obtain ⟨o₁, hd₁⟩ := exists_draws_after unicode otherCalls ⟨_, draws_new⟩
  generalize after unicode new calls = b at hmatching hafresh hd ⊢
  generalize after unicode new otherCalls = other at hd₁ ⊢
  obtain ⟨o₂, -, hd₂⟩ := hd₁.flush
  have haccounts : Accounts seen (b.importTarget, seen) := fun v hv => .inl hv
  obtain ⟨hcont, himports⟩ := importMatches_spec (readable_of_draws hd₂) (importTarget_spec hd hmatching hafresh) haccounts
  intro b₀ other₀ b' s hs himportable
  obtain ⟨l', hl', hcopied⟩ := himports s hs
  refine ⟨⟨b.importOptional, none, .none, l'⟩, ?_, himportable.optional.symm, himportable.pathVariable.symm,
    himportable.pathMode.symm, ?_⟩
  · have hmatching : b'.matching = true := hcont.between.matching
    unfold shapes
    rw [if_pos hmatching]
    exact mem_append_right _ hl'
  · exact ((forall₂_and_left _ _).mpr ⟨himportable.plain, hcopied⟩).imp fun _ _ hx => hx.2.same hx.1

def person : List Call := [.match_, .node (some "a") ["Person"]]

def knows : List Call :=
  [.match_, .node (some "a") ["Person"], .to_ ["KNOWS"] (some "e"), .hops 1 3, .node (some "b") ["Person"], .pattern,
    .node (some "b") []]

theorem import_keeps_patterns_knows :
    ∃ s ∈ (after .ascii new knows).flushCurrentPath.builtShapes,
      Importable (after .ascii new person) (after .ascii new knows).flushCurrentPath.arena s ∧
      ∃ s' ∈ ((after .ascii new person).importMatchPatterns (after .ascii new knows) {"a"}).1.shapes,
        SameShape (after .ascii new knows).flushCurrentPath.arena {"a"}
          ((after .ascii new person).importMatchPatterns (after .ascii new knows) {"a"}).1 s s' := by
  have hs : (⟨false, none, .none, [⟨none, 0⟩, ⟨some 2, 1⟩]⟩ : PathShape) ∈
      (after .ascii new knows).flushCurrentPath.builtShapes := mem_cons_self
  have himportable : Importable (after .ascii new person) (after .ascii new knows).flushCurrentPath.arena
      ⟨false, none, .none, [⟨none, 0⟩, ⟨some 2, 1⟩]⟩ := ⟨rfl, rfl, rfl, by decide⟩
  exact ⟨_, hs, himportable, import_keeps_patterns .ascii person knows {"a"} (by decide) (by unfold StartsAfresh; decide)
    _ hs himportable⟩

/-- The only node of the patterns has no labels although nothing stands before it. -/
theorem import_drops_attributes :
    (∃ labels, (after .ascii new person).flushCurrentPath.arena.nodes[0]? =
        some (.nodePattern (some "a") (some labels) [])) ∧
      ((after .ascii new []).importMatchPatterns (after .ascii new person) {"a"}).1.shapes =
        [⟨false, none, .none, [⟨none, 0⟩]⟩] ∧
      ((after .ascii new []).importMatchPatterns (after .ascii new person) {"a"}).1.arena.nodes[0]? =
        some (.nodePattern (some "a") none []) :=
  ⟨⟨_, rfl⟩, rfl, rfl⟩

end QueryBuilder

end Voyager
