import Voyager.Builder.LabelText
import Voyager.Topology.ReadBack

/-! The pattern that `graph_table` writes for a query that matches one path. -/

namespace Voyager

open List Option

namespace LabelExpression

def isAlternatives : LabelExpression → Bool
  | label _ => true
  | or l r => l.isAlternatives && r.isAlternatives
  | _ => false

lemma mem_collectLabelsInto (e : LabelExpression) (acc : List String) (t : String) :
    t ∈ e.collectLabelsInto acc ↔ t ∈ acc ∨ t ∈ e.collectLabels := by
  induction e generalizing acc with
  | label s =>
    by_cases hs : s ∈ acc
    · simp only [collectLabels, collectLabelsInto, contains_iff_mem, hs, if_true, not_mem_nil, if_false,
        nil_append, mem_singleton]
      exact ⟨Or.inl, fun h => h.elim id fun heq => heq ▸ hs⟩
    · simp [collectLabels, collectLabelsInto, hs]
  | and l r ihl ihr | or l r ihl ihr =>
    rw [collectLabels, collectLabelsInto, collectLabelsInto, ihr, ihl, ihr (l.collectLabelsInto []), collectLabels]
    exact or_assoc
  | not e ih => exact ih acc
  | wildcard => simp [collectLabels, collectLabelsInto]

lemma mem_collectLabels_iff {e : LabelExpression} (he : e.isAlternatives = true) (t : String) :
    t ∈ e.collectLabels ↔ e.holds {t} := by
  induction e with
  | label s => simp [collectLabels, collectLabelsInto, holds, eq_comm]
  | or l r ihl ihr =>
    obtain ⟨hl, hr⟩ := Bool.and_eq_true_iff.mp he
    rw [collectLabels, collectLabelsInto, mem_collectLabelsInto]
    exact or_congr (ihl hl) (ihr hr)
  | and | not | wildcard => cases he

lemma collectLabels_ne_nil {e : LabelExpression} (he : e.isAlternatives = true) : e.collectLabels ≠ [] := by
  have hsome : ∃ t, t ∈ e.collectLabels := by
    induction e with
    | label s => exact ⟨s, by simp [collectLabels, collectLabelsInto]⟩
    | or l r ihl _ =>
      obtain ⟨t, ht⟩ := ihl (Bool.and_eq_true_iff.mp he).1
      exact ⟨t, by rw [collectLabels, collectLabelsInto, mem_collectLabelsInto]; exact Or.inl ht⟩
    | and | not | wildcard => cases he
  obtain ⟨t, ht⟩ := hsome
  exact ne_nil_of_mem ht

end LabelExpression

namespace GraphTable

open GraphTopology
open Lib (asciiWord)

structure PathNode where
  name : String
  labels : Option LabelExpression

structure PathEdge where
  var : Option String
  types : LabelExpression
  direction : Direction
  minHops : Option ℕ
  maxHops : Option ℕ
  target : PathNode

structure LinearPath where
  start : PathNode
  edges : List PathEdge

def PathNode.At (arena : QueryAstArena) (node : PathNode) (h : NodeHandle) : Prop :=
  ∃ predicates, arena.nodes[h]? = some (.nodePattern (some node.name) node.labels predicates)

def PathEdge.At (arena : QueryAstArena) (edge : PathEdge) (h : NodeHandle) : Prop :=
  ∃ predicates target, arena.nodes[h]? = some (.edgePattern edge.var (some edge.types) edge.direction edge.minHops
    edge.maxHops predicates target) ∧ edge.target.At arena target

/-- The only clause of the query is a match of the path. -/
def LinearPath.AskedBy (path : LinearPath) (arena : QueryAstArena) (root : NodeHandle) : Prop :=
  ∃ mode csv unwinds linear returned clause optional pathHandle var pathMode start edges,
    arena.nodes[root]? = some (.queryStatement mode csv unwinds [clause] linear [] [] returned) ∧
    arena.nodes[clause]? = some (.matchClause optional [pathHandle] none) ∧
    arena.nodes[pathHandle]? = some (.pathChain var pathMode start edges) ∧
    path.start.At arena start ∧ List.Forall₂ (fun h edge => PathEdge.At arena edge h) edges path.edges

def PathEdge.asked (current : String) (edge : PathEdge) : PatternEdge :=
  match edge.direction with
  | .outgoing => ⟨current, edge.target.name, true, {t | edge.types.holds {t}}, edge.minHops, edge.maxHops⟩
  | .incoming => ⟨edge.target.name, current, true, {t | edge.types.holds {t}}, edge.minHops, edge.maxHops⟩
  | .undirected => ⟨current, edge.target.name, false, {t | edge.types.holds {t}}, edge.minHops, edge.maxHops⟩

/-- The edges of a path, each with the node before it. -/
def stepsFrom (current : String) : List PathEdge → List (String × PathEdge)
  | [] => []
  | edge :: edges => (current, edge) :: stepsFrom edge.target.name edges

def LinearPath.steps (path : LinearPath) : List (String × PathEdge) := stepsFrom path.start.name path.edges

def LinearPath.asked (path : LinearPath) : List PatternEdge := path.steps.map fun step => step.2.asked step.1

def edgeIds (counter : ℕ) : List PathEdge → List String
  | [] => []
  | edge :: edges => edge.var.getD s!"rel_{counter + 1}" :: edgeIds (counter + 1) edges

def PathNode.labelNames (node : PathNode) : List String := (node.labels.map LabelExpression.collectLabels).getD []

structure PathNode.Plain (ident : Char → Bool) (node : PathNode) : Prop where
  name : IsName ident node.name
  labels : ∀ l ∈ node.labelNames, IsName ident l

structure PathEdge.Plain (ident : Char → Bool) (edge : PathEdge) : Prop where
  var : ∀ v ∈ edge.var, ∀ c ∈ v.toList, ident c = true
  alternatives : edge.types.isAlternatives = true
  types : ∀ t ∈ edge.types.collectLabels, IsName ident t
  target : edge.target.Plain ident

structure LinearPath.Plain (ident : Char → Bool) (path : LinearPath) : Prop where
  start : path.start.Plain ident
  edges : ∀ edge ∈ path.edges, edge.Plain ident
  ids : (edgeIds 0 path.edges).Nodup

variable {ident : Char → Bool} (unicode : Unicode) {arena : QueryAstArena} {root : NodeHandle} {fuel counter : ℕ}
  {st : Extraction} {node : PathNode} {edge : PathEdge} {edges : List PathEdge} {drawn : TopologyEdge}
  {id current : String} {labels more : List String}

structure NodePlain (ident : Char → Bool) (id : String) (node : TopologyNode) : Prop where
  id_eq : node.id = id
  name : IsName ident id
  labels : ∀ l ∈ node.labels, IsName ident l
  bare : node.labels = [] → node.label = node.id

structure NodesPlain (ident : Char → Bool) (st : Extraction) : Prop where
  plain : ∀ id, ∀ node ∈ st.nodesMap.lookup id, NodePlain ident id node
  present : ∀ id ∈ st.nodesOrder, id ∈ st.nodesMap

lemma mem_addMissing {l : String} (hl : l ∈ addMissing labels more) : l ∈ labels ∨ l ∈ more := by
  induction more generalizing labels with
  | nil => exact Or.inl hl
  | cons first more ih =>
    rw [addMissing, foldl_cons] at hl
    rcases ih hl with h | h
    · split at h
      · exact Or.inl h
      · rcases mem_append.mp h with h | h
        · exact Or.inl h
        · exact Or.inr (mem_cons.mpr (Or.inl (mem_singleton.mp h)))
    · exact Or.inr (mem_cons_of_mem first h)

lemma labels_eq_nil_of_addMissing (h : addMissing labels more = []) : labels = [] := by
  induction more generalizing labels with
  | nil => exact h
  | cons first more ih =>
    rw [addMissing, foldl_cons] at h
    have hstep := ih h
    split at hstep
    · exact hstep
    · exact absurd hstep (by simp)

lemma shownLabels_plain {node : TopologyNode} (hnode : NodePlain ident id node) :
    ∀ l ∈ shownLabels node, IsName ident l := by
  rw [shownLabels]
  split
  · exact hnode.labels
  · next hempty =>
    rw [if_neg (fun h => h.2.2 (hnode.bare (not_not.mp hempty)))]
    simp

lemma NodesPlain.insert (hst : NodesPlain ident st) {node : TopologyNode} (hnode : NodePlain ident id node)
    {order : List String} (horder : ∀ x ∈ order, x ∈ st.nodesOrder ∨ x = id) (counter : ℕ) : NodesPlain ident
      { st with nodesMap := st.nodesMap.insert id node, nodesOrder := order, nodeCounter := counter } := by
  refine ⟨?_, ?_⟩
  · intro other n hn
    by_cases hid : other = id
    · subst hid
      rw [AList.lookup_insert] at hn
      obtain rfl := Option.some.inj hn
      exact hnode
    · rw [AList.lookup_insert_ne hid] at hn
      exact hst.plain other n hn
  · intro x hx
    rcases horder x hx with h | rfl
    · exact (AList.mem_insert _).mpr (Or.inr (hst.present x h))
    · exact (AList.mem_insert _).mpr (Or.inl rfl)

lemma newNode_plain (hplain : node.Plain ident) (labelExpression : Option LabelExpression) (props : Properties) :
    NodePlain ident node.name (newNode node.name (some node.name) node.labelNames labelExpression props) := by
  refine ⟨rfl, hplain.name, hplain.labels, ?_⟩
  intro hempty
  change node.labelNames = [] at hempty
  simp [newNode, hempty]

lemma mergeNode_plain (hplain : node.Plain ident) {seen : TopologyNode} (hseen : NodePlain ident node.name seen)
    (labelExpression : Option LabelExpression) (props : Properties) :
    NodePlain ident node.name (GraphTopology.mergeNode node.labelNames labelExpression props seen) := by
  refine ⟨hseen.id_eq, hseen.name, ?_, ?_⟩
  · intro l hl
    rcases mem_addMissing hl with h | h
    · exact hseen.labels l h
    · exact hplain.labels l h
  · intro hempty
    exact hseen.bare (labels_eq_nil_of_addMissing hempty)

lemma extractNodeFromHandle_at {h : NodeHandle} (hat : node.At arena h) (hplain : node.Plain ident)
    (hst : NodesPlain ident st) (horder : ∀ id ∈ st.nodesMap, st.nodesOrder ≠ []) :
    ∃ st', extractNodeFromHandle unicode arena h st = (node.name, st') ∧ NodesPlain ident st' ∧
      st'.edges = st.edges ∧ st'.edgeCounter = st.edgeCounter ∧ st'.nodesOrder ≠ [] := by
  obtain ⟨predicates, hat⟩ := hat
  have hid : nodeId unicode (some node.name) node.labelNames.head? (st.nodeCounter + 1) = node.name := by
    simp [nodeId, Option.filter, hplain.name.1]
  rw [extractNodeFromHandle, hat]
  dsimp only
  rw [← PathNode.labelNames]
  generalize nodeId unicode (some node.name) node.labelNames.head? (st.nodeCounter + 1) = id at hid ⊢
  subst hid
  cases hseen : st.nodesMap.lookup node.name with
  | some seen =>
    have hmem : node.name ∈ st.nodesMap := AList.lookup_isSome.mp (by rw [hseen]; rfl)
    refine ⟨_, rfl, ?_, rfl, rfl, horder node.name hmem⟩
    exact hst.insert (mergeNode_plain hplain (hst.plain node.name seen hseen) _ _) (fun x hx => Or.inl hx) _
  | none =>
    refine ⟨_, rfl, ?_, rfl, rfl, by simp⟩
    exact hst.insert (newNode_plain hplain _ _) (fun x hx => by simpa using hx) _

structure Drawn (current id : String) (edge : PathEdge) (drawn : TopologyEdge) : Prop where
  id_eq : drawn.id = id
  ends : (drawn.source, drawn.target) =
    if edge.direction = .incoming then (edge.target.name, current) else (current, edge.target.name)
  types : drawn.types = edge.types.collectLabels
  direction : drawn.direction = edge.direction
  minHops : drawn.minHops = edge.minHops
  maxHops : drawn.maxHops = edge.maxHops

inductive DrawnFrom : String → ℕ → List PathEdge → List TopologyEdge → Prop
  | nil (current : String) (counter : ℕ) : DrawnFrom current counter [] []
  | cons {current : String} {counter : ℕ} {edge : PathEdge} {edges : List PathEdge} {drawn : TopologyEdge}
      {more : List TopologyEdge} (first : Drawn current (edge.var.getD s!"rel_{counter + 1}") edge drawn)
      (rest : DrawnFrom edge.target.name (counter + 1) edges more) :
      DrawnFrom current counter (edge :: edges) (drawn :: more)

lemma updateFirst_of_fresh {f : TopologyEdge → TopologyEdge} {edges : List TopologyEdge}
    (hfresh : ∀ e ∈ edges, e.id ≠ id) : updateFirst id f edges = none := by
  induction edges with
  | nil => rfl
  | cons e edges ih =>
    obtain ⟨he, hedges⟩ := forall_mem_cons.mp hfresh
    rw [updateFirst, if_neg he, ih hedges]
    rfl

lemma extractEdge_at {h : NodeHandle} (hat : edge.At arena h) (hplain : edge.Plain ident)
    (hst : NodesPlain ident st) (horder : st.nodesOrder ≠ []) (current : String)
    (hfresh : ∀ e ∈ st.edges, e.id ≠ edge.var.getD s!"rel_{st.edgeCounter + 1}") :
    ∃ st' drawn, extractEdge unicode arena current h st = (edge.target.name, st') ∧ NodesPlain ident st' ∧
      st'.nodesOrder ≠ [] ∧ st'.edges = st.edges ++ [drawn] ∧ st'.edgeCounter = st.edgeCounter + 1 ∧
      Drawn current (edge.var.getD s!"rel_{st.edgeCounter + 1}") edge drawn := by
  obtain ⟨predicates, target, hat, htarget⟩ := hat
  obtain ⟨st₁, hnode, hst₁, hedges, hcounter, horder₁⟩ :=
    extractNodeFromHandle_at unicode htarget hplain.target hst (fun _ _ => horder)
  rw [extractEdge, hat]
  simp only [hnode, hedges, hcounter, updateFirst_of_fresh hfresh, getD_none]
  refine ⟨_, _, rfl, ⟨hst₁.plain, hst₁.present⟩, horder₁, rfl, rfl, rfl, ?_, rfl, rfl, rfl, rfl⟩
  cases edge.direction <;> rfl

lemma extractEdges_at {handles : List NodeHandle}
    (hat : List.Forall₂ (fun h edge => PathEdge.At arena edge h) handles edges)
    (hplain : ∀ edge ∈ edges, edge.Plain ident) (hst : NodesPlain ident st) (horder : st.nodesOrder ≠ [])
    (current : String) (hids : (st.edges.map TopologyEdge.id ++ edgeIds st.edgeCounter edges).Nodup) :
    ∃ drawn, (extractEdges unicode arena current handles st).edges = st.edges ++ drawn ∧
      DrawnFrom current st.edgeCounter edges drawn ∧ NodesPlain ident (extractEdges unicode arena current handles st) ∧
      (extractEdges unicode arena current handles st).nodesOrder ≠ [] := by
  induction hat generalizing st current with
  | nil => exact ⟨[], (append_nil _).symm, .nil current st.edgeCounter, hst, horder⟩
  | @cons h edge handles edges hedge _ ih =>
    obtain ⟨hfirst, hmore⟩ := forall_mem_cons.mp hplain
    have hfresh : ∀ e ∈ st.edges, e.id ≠ edge.var.getD s!"rel_{st.edgeCounter + 1}" := by
      intro e he heq
      exact disjoint_of_nodup_append hids (mem_map_of_mem he) (heq ▸ mem_cons_self)
    obtain ⟨st₁, drawn, hstep, hst₁, horder₁, hedges, hcounter, hdrawn⟩ :=
      extractEdge_at unicode hedge hfirst hst horder current hfresh
    have hids₁ : (st₁.edges.map TopologyEdge.id ++ edgeIds st₁.edgeCounter edges).Nodup := by
      rw [hedges, hcounter, map_append, append_assoc]
      simpa [edgeIds, hdrawn.id_eq] using hids
    obtain ⟨more, hall, hfrom, hend, hlast⟩ := ih hmore hst₁ horder₁ edge.target.name hids₁
    simp only [extractEdges, hstep]
    refine ⟨drawn :: more, ?_, ?_, hend, hlast⟩
    · rw [hall, hedges, append_assoc]
      rfl
    · rw [hcounter] at hfrom
      exact .cons hdrawn hfrom

def PathEdge.turned (current : String) (edge : PathEdge) : PatternEdge :=
  ⟨current, edge.target.name, edge.direction != .undirected, {t | edge.types.holds {t}}, edge.minHops, edge.maxHops⟩

def LinearPath.turned (path : LinearPath) : List PatternEdge := path.steps.map fun step => step.2.turned step.1

lemma shownEdge_drawn (hplain : edge.Plain ident) (hdrawn : Drawn current id edge drawn) :
    shownEdge drawn = edge.turned current := by
  have htypes : {t | t ∈ drawn.types} = {t | edge.types.holds {t}} := by
    ext t
    rw [hdrawn.types]
    exact LabelExpression.mem_collectLabels_iff hplain.alternatives t
  have hends := hdrawn.ends
  rw [shownEdge, hdrawn.direction, htypes, hdrawn.minHops, hdrawn.maxHops]
  cases hdirection : edge.direction with
  | outgoing | incoming | undirected =>
    rw [hdirection] at hends
    obtain ⟨hsource, htarget⟩ := Prod.mk.inj hends
    simp [PathEdge.turned, hsource, htarget, hdirection]

lemma map_shownEdge_drawn {drawn : List TopologyEdge} (hplain : ∀ edge ∈ edges, edge.Plain ident)
    (hdrawn : DrawnFrom current counter edges drawn) :
    drawn.map shownEdge = (stepsFrom current edges).map fun step => step.2.turned step.1 := by
  induction hdrawn with
  | nil => rfl
  | cons hfirst _ ih =>
    obtain ⟨hedge, hmore⟩ := forall_mem_cons.mp hplain
    rw [map_cons, stepsFrom, map_cons, shownEdge_drawn hedge hfirst, ih hmore]

lemma turned_eq_asked (hdirection : edge.direction ≠ .incoming) : edge.turned current = edge.asked current := by
  rw [PathEdge.turned, PathEdge.asked]
  cases h : edge.direction with
  | outgoing | undirected => rfl
  | incoming => exact absurd h hdirection

lemma shownVariable_getD {var : Option String} (hvar : ∀ v ∈ var, ∀ c ∈ v.toList, ident c = true) (counter : ℕ) :
    ∀ c ∈ (shownVariable (var.getD s!"rel_{counter}")).toList, ident c = true := by
  cases var with
  | none =>
    have hnumbered : "rel_".toList <+: (s!"rel_{counter}").toList := ⟨(toString counter).toList, String.toList_append.symm⟩
    rw [getD_none, shownVariable, if_neg (fun h => h.2 hnumbered)]
    simp
  | some v =>
    rw [getD_some, shownVariable]
    split
    · exact hvar v rfl
    · simp

lemma Drawn.readable (hcurrent : IsName ident current) (hplain : edge.Plain ident)
    (hdrawn : Drawn current (edge.var.getD s!"rel_{counter}") edge drawn) :
    ReadableEdge ident drawn := by
  have hends : IsName ident drawn.source ∧ IsName ident drawn.target := by
    have hends := hdrawn.ends
    split at hends
    · obtain ⟨hsource, htarget⟩ := Prod.mk.inj hends
      exact ⟨hsource ▸ hplain.target.name, htarget ▸ hcurrent⟩
    · obtain ⟨hsource, htarget⟩ := Prod.mk.inj hends
      exact ⟨hsource ▸ hcurrent, htarget ▸ hplain.target.name⟩
  refine ⟨?_, ?_, ?_, hends.1, hends.2⟩
  · rw [hdrawn.id_eq]
    exact shownVariable_getD hplain.var counter
  · rw [hdrawn.types]
    exact LabelExpression.collectLabels_ne_nil hplain.alternatives
  · rw [hdrawn.types]
    exact hplain.types

lemma DrawnFrom.readable {drawn : List TopologyEdge} (hdrawn : DrawnFrom current counter edges drawn)
    (hcurrent : IsName ident current) (hplain : ∀ edge ∈ edges, edge.Plain ident) :
    ∀ e ∈ drawn, ReadableEdge ident e := by
  induction hdrawn with
  | nil => simp
  | cons hfirst _ ih =>
    obtain ⟨hedge, hmore⟩ := forall_mem_cons.mp hplain
    exact forall_mem_cons.mpr ⟨hfirst.readable hcurrent hedge, ih hedge.target.name hmore⟩

lemma collectPathsAndWheresFromRoot_asked {path : LinearPath} (hasked : path.AskedBy arena root) (hfuel : 2 ≤ fuel) :
    ∃ pathHandle var pathMode start edges,
      collectPathsAndWheresFromRoot arena fuel root = some ⟨[pathHandle], []⟩ ∧
      arena.nodes[pathHandle]? = some (.pathChain var pathMode start edges) ∧
      path.start.At arena start ∧ List.Forall₂ (fun h edge => PathEdge.At arena edge h) edges path.edges := by
  obtain ⟨_, _, _, _, _, _, _, pathHandle, var, pathMode, start, edges, hroot, hclause, hpath, hstart, hedges⟩ := hasked
  obtain ⟨fuel, rfl⟩ := Nat.exists_eq_add_of_le' hfuel
  refine ⟨pathHandle, var, pathMode, start, edges, ?_, hpath, hstart, hedges⟩
  simp [collectPathsAndWheresFromRoot, hroot, hclause, Found.concat, Found.append, Found.nothing]

lemma fromArena_asked {path : LinearPath} (hasked : path.AskedBy arena root) (hplain : path.Plain ident)
    (hfuel : 2 ≤ fuel) :
    ∃ topo, fromArena unicode arena fuel (some root) = some topo ∧
      DrawnFrom path.start.name 0 path.edges topo.edges ∧ Readable ident topo := by
  obtain ⟨pathHandle, var, pathMode, start, edges, hfound, hpath, hstart, hedges⟩ :=
    collectPathsAndWheresFromRoot_asked hasked hfuel
  have hnothing : NodesPlain ident .start := by
    refine ⟨?_, ?_⟩
    · intro id node hnode
      cases hnode
    · intro id hid
      cases hid
  obtain ⟨st, hnode, hst, hnone, hcounter, horder⟩ :=
    extractNodeFromHandle_at unicode hstart hplain.start hnothing (fun id hid => by cases hid)
  have hids : (st.edges.map TopologyEdge.id ++ edgeIds st.edgeCounter path.edges).Nodup := by
    rw [hnone, hcounter]
    exact hplain.ids
  obtain ⟨drawn, hall, hfrom, hend, hlast⟩ :=
    extractEdges_at unicode hedges hplain.edges hst horder path.start.name hids
  rw [hnone, Extraction.start, nil_append] at hall
  rw [hcounter] at hfrom
  set last := extractEdges unicode arena path.start.name edges st with hlastdef
  refine ⟨⟨1, last.nodesOrder.filterMap fun id => last.nodesMap.lookup id, last.edges⟩, ?_, ?_, ?_⟩
  · have hextract : extractPath unicode arena pathHandle .start = last := by
      rw [extractPath, hpath]
      simp only [hnode, hlastdef]
    simp [fromArena, findPaths, hfound, eraseDups_cons, hextract]
  · rw [hall]
    exact hfrom
  · have hnodes : ∀ node ∈ last.nodesOrder.filterMap fun id => last.nodesMap.lookup id,
        ∃ id, NodePlain ident id node := by
      intro node hmem
      obtain ⟨id, -, hid⟩ := mem_filterMap.mp hmem
      exact ⟨id, hend.plain id node hid⟩
    refine ⟨?_, ?_, ?_, ?_⟩
    · obtain ⟨id, more, hid⟩ := exists_cons_of_ne_nil hlast
      have hmem : id ∈ last.nodesOrder := hid ▸ mem_cons_self
      obtain ⟨node, hnode⟩ := isSome_iff_exists.mp (AList.lookup_isSome.mpr (hend.present id hmem))
      exact ne_nil_of_mem (mem_filterMap.mpr ⟨id, hmem, hnode⟩)
    · intro node hmem
      obtain ⟨id, hplain⟩ := hnodes node hmem
      exact hplain.id_eq ▸ hplain.name
    · intro node hmem
      obtain ⟨id, hplain⟩ := hnodes node hmem
      exact shownLabels_plain hplain
    · rw [hall]
      exact hfrom.readable hplain.start.name hplain.edges

def KeepsPattern (ident : Char → Bool) (unicode : Unicode) (arena : QueryAstArena) (fuel : ℕ) (root : NodeHandle)
    (path : LinearPath) : Prop :=
  ∃ topo chains, fromArena unicode arena fuel (some root) = some topo ∧
    readPatterns ident (topologyToPatternStr topo) = some chains ∧
    {e | e ∈ chains.flatMap Chain.edges} = {e | e ∈ path.asked}

lemma reads_turned (hsep : Separates ident) {path : LinearPath} (hasked : path.AskedBy arena root)
    (hplain : path.Plain ident) (hfuel : 2 ≤ fuel) :
    ∃ topo chains, fromArena unicode arena fuel (some root) = some topo ∧
      readPatterns ident (topologyToPatternStr topo) = some chains ∧
      chains.flatMap Chain.edges = path.turned := by
  obtain ⟨topo, htopo, hdrawn, hreadable⟩ := fromArena_asked unicode hasked hplain hfuel
  obtain ⟨chains, hread, hedges⟩ := readPatterns_topologyToPatternStr hsep hreadable
  refine ⟨topo, chains, htopo, hread, ?_⟩
  rw [hedges, map_shownEdge_drawn hplain.edges hdrawn]
  rfl

lemma same_members_iff (path : LinearPath) :
    {e | e ∈ path.turned} = {e | e ∈ path.asked} ↔ ∀ step ∈ path.steps, step.2.direction = .incoming →
      step.2.turned step.1 ∈ path.asked ∧ step.2.asked step.1 ∈ path.turned := by
  refine ⟨fun h step hstep _ => ?_, fun h => ?_⟩
  · have hturned : step.2.turned step.1 ∈ path.turned := mem_map.mpr ⟨step, hstep, rfl⟩
    have hasked : step.2.asked step.1 ∈ path.asked := mem_map.mpr ⟨step, hstep, rfl⟩
    exact ⟨(Set.ext_iff.mp h _).mp hturned, (Set.ext_iff.mp h _).mpr hasked⟩
  · ext e
    constructor
    all_goals
      rintro he
      obtain ⟨step, hstep, rfl⟩ := mem_map.mp he
      by_cases hdirection : step.2.direction = .incoming
    · exact (h step hstep hdirection).1
    · exact mem_map.mpr ⟨step, hstep, (turned_eq_asked hdirection).symm⟩
    · exact (h step hstep hdirection).2
    · exact mem_map.mpr ⟨step, hstep, turned_eq_asked hdirection⟩

/-- Every incoming edge is read the other way round, so the pattern is kept exactly where the path has that edge as well
and has the edge that is meant among those it reads. -/
theorem keepsPattern_iff (hsep : Separates ident) {path : LinearPath} {root : NodeHandle}
    (hasked : path.AskedBy arena root) (hplain : path.Plain ident) {fuel : ℕ} (hfuel : 2 ≤ fuel) :
    KeepsPattern ident unicode arena fuel root path ↔ ∀ step ∈ path.steps, step.2.direction = .incoming →
      step.2.turned step.1 ∈ path.asked ∧ step.2.asked step.1 ∈ path.turned := by
  obtain ⟨topo, chains, htopo, hread, hedges⟩ := reads_turned unicode hsep hasked hplain hfuel
  rw [← same_members_iff, ← hedges]
  refine ⟨?_, fun h => ⟨topo, chains, htopo, hread, h⟩⟩
  rintro ⟨topo', chains', htopo', hread', h⟩
  obtain rfl := Option.some.inj (htopo'.symm.trans htopo)
  obtain rfl := Option.some.inj (hread'.symm.trans hread)
  exact h

lemma separates_asciiWord : Separates asciiWord := by
  simp only [Separates, forall_mem_cons, not_mem_nil, false_implies, implies_true, and_true]
  decide

lemma isName_asciiWord {name : String} (h : name ≠ "" ∧ name.toList.all asciiWord = true) : IsName asciiWord name :=
  ⟨h.1, all_eq_true.mp h.2⟩

variable (direction : Direction) (maxHops : Option ℕ)

def oneEdge : QueryAstArena where
  nodes := [.nodePattern (some "a") (some (.label "Person")) [], .nodePattern (some "b") none [],
    .edgePattern none (some (.or (.label "KNOWS") (.label "LIKES"))) direction (some 1) maxHops [] 1,
    .pathChain none .walk 0 [2], .matchClause false [3] none, .queryStatement .normal none [] [4] [] [] [] none]

def onePath : LinearPath :=
  ⟨⟨"a", some (.label "Person")⟩,
    [⟨none, .or (.label "KNOWS") (.label "LIKES"), direction, some 1, maxHops, ⟨"b", none⟩⟩]⟩

lemma onePath_askedBy : (onePath direction maxHops).AskedBy (oneEdge direction maxHops) 5 := by
  refine ⟨_, _, _, _, _, _, _, _, _, _, _, _, rfl, rfl, rfl, ⟨_, rfl⟩, ?_⟩
  exact .cons ⟨_, _, rfl, _, rfl⟩ .nil

lemma onePath_plain : (onePath direction maxHops).Plain asciiWord := by
  have hnames : ∀ name ∈ ["a", "b", "Person", "KNOWS", "LIKES"], IsName asciiWord name := by
    intro name hname
    apply isName_asciiWord
    revert name
    decide
  refine ⟨⟨hnames "a" (by decide), ?_⟩, ?_, nodup_singleton _⟩
  · intro l hl
    obtain rfl : l = "Person" := mem_singleton.mp hl
    exact hnames "Person" (by decide)
  · intro edge hedge
    obtain rfl := mem_singleton.mp hedge
    refine ⟨fun v hv => (by cases hv), rfl, ?_, hnames "b" (by decide), fun l hl => (by cases hl)⟩
    intro t ht
    have hmem : t ∈ ["KNOWS", "LIKES"] := ht
    exact hnames t (mem_cons_of_mem _ (mem_cons_of_mem _ (mem_cons_of_mem _ hmem)))

theorem keepsPattern_undirected :
    (onePath .undirected (some 3)).Plain asciiWord ∧
      KeepsPattern asciiWord .ascii (oneEdge .undirected (some 3)) 2 5 (onePath .undirected (some 3)) := by
  have hplain := onePath_plain .undirected (some 3)
  refine ⟨hplain, (keepsPattern_iff .ascii separates_asciiWord (onePath_askedBy _ _) hplain (le_refl 2)).mpr ?_⟩
  intro step hstep hdirection
  cases mem_singleton.mp hstep
  cases hdirection

theorem not_keepsPattern_incoming :
    (onePath .incoming none).AskedBy (oneEdge .incoming none) 5 ∧ (onePath .incoming none).Plain asciiWord ∧
      ¬ KeepsPattern asciiWord .ascii (oneEdge .incoming none) 2 5 (onePath .incoming none) := by
  have hasked := onePath_askedBy .incoming none
  have hplain := onePath_plain .incoming none
  refine ⟨hasked, hplain, ?_⟩
  rintro ⟨topo, chains, htopo, hread, hedges⟩
  obtain ⟨topo', chains', htopo', hread', hturned⟩ :=
    reads_turned .ascii separates_asciiWord hasked hplain (le_refl 2)
  obtain rfl := Option.some.inj (htopo'.symm.trans htopo)
  obtain rfl := Option.some.inj (hread'.symm.trans hread)
  rw [hturned, same_members_iff] at hedges
  have hmem := (hedges _ mem_cons_self rfl).1
  have hsource := congrArg PatternEdge.source (mem_singleton.mp hmem)
  exact absurd hsource (by decide)

end GraphTable

end Voyager
