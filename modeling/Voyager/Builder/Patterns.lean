import Voyager.Builder.Flush
import Voyager.Builder.Outline

/-! The outline of a builder, and that every call follows it. -/

namespace Voyager

open Relation List Option QueryAstArena

variable {clauses : List NodeHandle} {cs : List PatternClause}

namespace QueryAstArena

def edgeNode (a : QueryAstArena) (edge : NodeHandle) : Option PathNode :=
  match a.nodes[edge]? with
  | some (.edgePattern _ _ _ _ _ _ targetNode) => some ⟨some edge, targetNode⟩
  | _ => none

def pathNodes (a : QueryAstArena) (path : NodeHandle) : List PathNode :=
  match a.nodes[path]? with
  | some (.nodePattern ..) => [⟨none, path⟩]
  | some (.pathChain _ _ startNode edges) => ⟨none, startNode⟩ :: edges.filterMap a.edgeNode
  | _ => []

def patternClause (a : QueryAstArena) (clause : NodeHandle) : PatternClause :=
  match a.nodes[clause]? with
  | some (.matchClause optional paths _) => (some (.match_ optional), paths.flatMap a.pathNodes)
  | some (.createClause paths) => (some .create, paths.flatMap a.pathNodes)
  | some (.mergeClause path _ _) => (some .merge, a.pathNodes path)
  | _ => (none, [])

def IsNode (a : QueryAstArena) (h : NodeHandle) : Prop :=
  ∃ var labels predicates, a.nodes[h]? = some (.nodePattern var labels predicates)

inductive IsEdge (a : QueryAstArena) : NodeHandle → PathNode → Prop
  | intro {edge : NodeHandle} {var : Option String} {labels : Option LabelExpression} {direction : Direction}
      {min max : Option ℕ} {predicates : List NodeHandle} {targetNode : NodeHandle}
      (hn : a.nodes[edge]? = some (.edgePattern var labels direction min max predicates targetNode))
      (htarget : a.IsNode targetNode) : IsEdge a edge ⟨some edge, targetNode⟩

inductive IsPath (a : QueryAstArena) : NodeHandle → List PathNode → Prop
  | node {h : NodeHandle} {var : Option String} {labels : Option LabelExpression} {predicates : List NodeHandle}
      (hn : a.nodes[h]? = some (.nodePattern var labels predicates)) : IsPath a h [⟨none, h⟩]
  | chain {h startNode : NodeHandle} {var : Option String} {mode : PathMode} {edges : List NodeHandle}
      {l : List PathNode} (hn : a.nodes[h]? = some (.pathChain var mode startNode edges))
      (hstart : a.IsNode startNode) (hedges : List.Forall₂ a.IsEdge edges l) : IsPath a h (⟨none, startNode⟩ :: l)

def isWrite : AstNode → Bool
  | .setClause _ | .deleteClause .. | .removeClause _ => true
  | _ => false

inductive IsClause (a : QueryAstArena) : NodeHandle → PatternClause → Prop
  | match_ {h : NodeHandle} {optional : Bool} {paths : List NodeHandle} {condition : Option NodeHandle}
      {l : List (List PathNode)} (hn : a.nodes[h]? = some (.matchClause optional paths condition))
      (hpaths : List.Forall₂ a.IsPath paths l) : IsClause a h (some (.match_ optional), l.flatten)
  | create {h : NodeHandle} {paths : List NodeHandle} {l : List (List PathNode)}
      (hn : a.nodes[h]? = some (.createClause paths)) (hpaths : List.Forall₂ a.IsPath paths l) :
      IsClause a h (some .create, l.flatten)
  | merge {h path : NodeHandle} {onCreate onMatch : List NodeHandle} {l : List PathNode}
      (hn : a.nodes[h]? = some (.mergeClause path onCreate onMatch)) (hpath : a.IsPath path l) :
      IsClause a h (some .merge, l)
  | write {h : NodeHandle} {n : AstNode} (hn : a.nodes[h]? = some n) (hwrite : isWrite n = true) :
      IsClause a h (none, [])

variable {a a' : QueryAstArena} {h : NodeHandle} {x : PathNode} {l : List PathNode} {c : PatternClause}

lemma IsNode.mono (ha : a.Settles a') (hn : a.IsNode h) : a'.IsNode h := by
  obtain ⟨var, labels, predicates, hn⟩ := hn
  exact ⟨var, labels, predicates, ha.node hn rfl⟩

lemma IsEdge.mono (ha : a.Settles a') (he : a.IsEdge h x) : a'.IsEdge h x := by
  obtain ⟨hn, htarget⟩ := he
  obtain ⟨n', hn', hsettled⟩ := ha.settled hn
  cases n' with
  | edgePattern =>
    cases hsettled
    exact ⟨hn', htarget.mono ha⟩
  | _ => cases hsettled

lemma IsPath.mono (ha : a.Settles a') (hp : a.IsPath h l) : a'.IsPath h l := by
  cases hp with
  | node hn => exact .node (ha.node hn rfl)
  | chain hn hstart hedges =>
    exact .chain (ha.node hn rfl) (hstart.mono ha) (hedges.imp fun _ _ he => he.mono ha)

lemma isFinal_of_isWrite {n : AstNode} (hwrite : isWrite n = true) : n.isFinal = true := by
  cases n <;> first | rfl | cases hwrite

lemma IsNode.path (hn : a.IsNode h) : a.IsPath h [⟨none, h⟩] := by
  obtain ⟨_, _, _, hn⟩ := hn
  exact .node hn

lemma IsClause.mono (ha : a.Settles a') (hc : a.IsClause h c) : a'.IsClause h c := by
  cases hc with
  | match_ hn hpaths => exact .match_ (ha.node hn rfl) (hpaths.imp fun _ _ hp => hp.mono ha)
  | create hn hpaths => exact .create (ha.node hn rfl) (hpaths.imp fun _ _ hp => hp.mono ha)
  | merge hn hpath => exact .merge (ha.node hn rfl) (hpath.mono ha)
  | write hn hwrite => exact .write (ha.node hn (isFinal_of_isWrite hwrite)) hwrite

lemma IsEdge.edgeNode_eq (he : a.IsEdge h x) : a.edgeNode h = some x := by
  obtain ⟨hn, -⟩ := he
  simp only [edgeNode, hn]

variable {edges : List NodeHandle}

lemma filterMap_edgeNode (h : List.Forall₂ a.IsEdge edges l) : edges.filterMap a.edgeNode = l := by
  induction h with
  | nil => rfl
  | cons he _ ih => rw [filterMap_cons_some he.edgeNode_eq, ih]

lemma IsPath.pathNodes_eq (hp : a.IsPath h l) : a.pathNodes h = l := by
  cases hp with
  | node hn => simp only [pathNodes, hn]
  | chain hn _ hedges => simp only [pathNodes, hn, filterMap_edgeNode hedges]

variable {ls : List (List PathNode)}

lemma map_pathNodes {paths : List NodeHandle} (h : List.Forall₂ a.IsPath paths ls) : paths.map a.pathNodes = ls := by
  induction h with
  | nil => rfl
  | cons hp _ ih => rw [map_cons, hp.pathNodes_eq, ih]

lemma flatMap_pathNodes {paths : List NodeHandle} (h : List.Forall₂ a.IsPath paths ls) :
    paths.flatMap a.pathNodes = ls.flatten := by
  rw [flatMap_def, map_pathNodes h]

lemma IsClause.patternClause_eq (hc : a.IsClause h c) : a.patternClause h = c := by
  cases hc with
  | match_ hn hpaths | create hn hpaths => simp only [patternClause, hn, flatMap_pathNodes hpaths]
  | merge hn hpath => simp only [patternClause, hn, hpath.pathNodes_eq]
  | @write n hn hwrite =>
    unfold patternClause
    rw [hn]
    cases n <;> first | rfl | cases hwrite

lemma lt_of_node {i : ℕ} {n : AstNode} (hn : a.nodes[i]? = some n) : i < a.len := (List.getElem?_eq_some_iff.mp hn).1

lemma IsNode.lt (hn : a.IsNode h) : h < a.len := by
  obtain ⟨_, _, _, hn⟩ := hn
  exact lt_of_node hn

lemma lt_of_edges (he : List.Forall₂ a.IsEdge edges l) (hx : x ∈ l) : x.node < a.len := by
  induction he with
  | nil => cases hx
  | cons he _ ih =>
    rcases mem_cons.mp hx with rfl | hx
    · obtain ⟨-, htarget⟩ := he
      exact htarget.lt
    · exact ih hx

lemma IsPath.lt (hp : a.IsPath h l) (hx : x ∈ l) : x.node < a.len := by
  cases hp with
  | node hn =>
    obtain rfl := mem_singleton.mp hx
    exact lt_of_node hn
  | chain hn hstart hedges =>
    rcases mem_cons.mp hx with rfl | hx
    · exact hstart.lt
    · exact lt_of_edges hedges hx

lemma lt_of_paths {paths : List NodeHandle} (h : List.Forall₂ a.IsPath paths ls) (hx : x ∈ ls.flatten) :
    x.node < a.len := by
  induction h with
  | nil => cases hx
  | cons hp _ ih =>
    rcases mem_append.mp hx with hx | hx
    · exact hp.lt hx
    · exact ih hx

lemma IsClause.lt (hc : a.IsClause h c) (hx : x ∈ c.2) : x.node < a.len := by
  cases hc with
  | match_ _ hpaths | create _ hpaths => exact lt_of_paths hpaths hx
  | merge _ hpath => exact hpath.lt hx
  | write => cases hx

lemma lt_of_clauses (h : List.Forall₂ a.IsClause clauses cs) (hc : c ∈ cs) (hx : x ∈ c.2) : x.node < a.len := by
  induction h with
  | nil => cases hc
  | cons hclause _ ih =>
    rcases mem_cons.mp hc with rfl | hc
    · exact hclause.lt hx
    · exact ih hc

end QueryAstArena

namespace QueryBuilder

structure Draws (b : QueryBuilder) (o : Outline) : Prop where
  mode : o.mode = b.clauseMode
  optional : o.optional = b.isOptionalMatch
  matches_ : ∀ h ∈ b.matchClauses, ∃ optional paths condition,
    b.arena.nodes[h]? = some (.matchClause optional paths condition)
  reads : List.Forall₂ b.arena.IsClause b.matchClauses o.reads
  writes : List.Forall₂ b.arena.IsClause b.mutationClauses o.writes
  paths : List.Forall₂ b.arena.IsPath b.currentMatchPaths o.paths
  start : o.start = b.currentPathStart
  startNode : ∀ s, b.currentPathStart = some s → b.arena.IsNode s
  edges : List.Forall₂ b.arena.IsEdge b.currentEdges o.edges

variable {b b' : QueryBuilder} {o o' : Outline} {kind : PatternKind} {x : PathNode}

lemma draws_new : Draws new ⟨none, false, [], [], [], none, []⟩ := by
  constructor <;> simp [new]

section

variable (hd : Draws b o)

include hd

lemma Draws.settles {a : QueryAstArena} (ha : b.arena.Settles a) : Draws { b with arena := a } o :=
  ⟨hd.mode, hd.optional, fun h hh => (hd.matches_ h hh).imp fun _ hn => hn.imp fun _ hn => hn.imp fun _ hn =>
    ha.node hn rfl, hd.reads.imp fun _ _ hc => hc.mono ha, hd.writes.imp fun _ _ hc => hc.mono ha,
    hd.paths.imp fun _ _ hp => hp.mono ha, hd.start, fun s hs => (hd.startNode s hs).mono ha,
    hd.edges.imp fun _ _ he => he.mono ha⟩

lemma Draws.extend (nodes : List AstNode) : Draws { b with arena := ⟨b.arena.nodes ++ nodes⟩ } o :=
  hd.settles (settles_append _ _)

lemma Draws.lt_start {s : NodeHandle} (hs : b.currentPathStart = some s) : s < b.arena.len :=
  (hd.startNode s hs).lt

lemma Draws.takePath {s : NodeHandle} (hs : b.currentPathStart = some s) : ∃ path more,
      b.takePath = (some path, { b with
        arena := ⟨b.arena.nodes ++ more⟩, currentPathStart := none, currentPathMode := .none
        currentPathVariable := none, currentEdges := [] }) ∧
      (QueryAstArena.mk (b.arena.nodes ++ more)).IsPath path (⟨none, s⟩ :: o.edges) := by
  obtain ⟨path, more, var, mode, htake, -, hpath⟩ := takePath_some hs
  refine ⟨path, more, htake, ?_⟩
  have hd' := hd.extend more
  rcases hpath with ⟨-, rfl, hedges, -⟩ | ⟨rfl, rfl⟩
  · have hforall := hd.edges
    rw [hedges] at hforall
    rw [forall₂_nil_left_iff.mp hforall]
    exact (hd'.startNode _ hs).path
  · exact .chain getElem?_concat_length (hd'.startNode _ hs) hd'.edges

lemma Draws.closePath : List.Forall₂ b.closePath.2.arena.IsPath b.closePath.1 o.current ∧
      Draws b.closePath.2 { o with paths := [], start := none, edges := o.loose } := by
  unfold QueryBuilder.closePath
  rcases eq_none_or_eq_some b.currentPathStart with hstart | ⟨s, hs⟩
  · rw [takePath_none (b := { b with currentMatchPaths := [] }) hstart]
    have hnone : o.start = none := hd.start.trans hstart
    refine ⟨?_, { hd with paths := .nil, start := hstart.symm, edges := ?_ }⟩
    · simpa [Outline.current_of_no_start hnone] using hd.paths
    · simpa [Outline.loose, hnone] using hd.edges
  · have hd₀ : Draws { b with currentMatchPaths := [] } { o with paths := [] } := { hd with paths := .nil }
    obtain ⟨path, more, htake, hlast⟩ := hd₀.takePath hs
    rw [htake]
    have hsome : o.start = some s := hd.start.trans hs
    have hd' := hd.extend more
    refine ⟨?_, { hd' with paths := .nil, start := rfl, startNode := by simp, edges := ?_ }⟩
    · rw [Outline.current_of_start hsome]
      exact rel_append hd'.paths (.cons hlast .nil)
    · simp [Outline.loose, hsome]

lemma Draws.below : o.Below b.arena.len := by
  rintro x (hx | ⟨c, hc, hx⟩)
  · rcases Outline.mem_of_pending hx with hx | ⟨s, hs, rfl⟩ | hx
    · exact lt_of_paths hd.paths hx
    · exact hd.lt_start (hd.start.symm.trans hs)
    · exact lt_of_edges hd.edges hx
  · rcases mem_append.mp hc with hc | hc
    · exact lt_of_clauses hd.reads hc hx
    · exact lt_of_clauses hd.writes hc hx

lemma Draws.edgeNode (var : Option String) (labels : Option LabelExpression)
    (hpending : b.pendingEdge.isSome = true) :
    Draws (b.nodePatternInternal var labels) (o.edgeTo (b.arena.len + 1) b.arena.len) := by
  obtain ⟨pending, hpending⟩ := isSome_iff_exists.mp hpending
  rw [nodePattern_edge hpending]
  set more : List AstNode := [.nodePattern var labels [], .edgePattern pending.var pending.labelExpression
    pending.direction pending.minHops pending.maxHops [] b.arena.len]
  have hd' := hd.extend more
  have hedge : (QueryAstArena.mk (b.arena.nodes ++ more)).IsEdge (b.arena.len + 1)
      ⟨some (b.arena.len + 1), b.arena.len⟩ := by
    have hn : (b.arena.nodes ++ more)[b.arena.nodes.length + 1]? = more[1]? := by
      rw [getElem?_append_right (by omega)]
      simp
    exact .intro hn ⟨var, labels, [], by simp [len, more]⟩
  exact { hd' with edges := rel_append hd'.edges (.cons hedge .nil) }

lemma Draws.startNodeAt (var : Option String) (labels : Option LabelExpression) (hpending : b.pendingEdge = none)
    (hstart : b.currentPathStart = none) :
    Draws (b.nodePatternInternal var labels) (o.startAt b.arena.len) := by
  rw [nodePattern_start hpending hstart]
  have hd' := hd.extend [.nodePattern var labels []]
  refine { hd' with start := rfl, startNode := ?_ }
  intro s hs
  cases hs
  exact ⟨_, _, _, getElem?_concat_length⟩

lemma Draws.pattern : Draws b.pattern o.pattern := by
  unfold QueryBuilder.pattern Outline.pattern
  rcases eq_none_or_eq_some b.currentPathStart with hstart | ⟨s, hs⟩
  · rw [takePath_none hstart, if_neg (by simp [hd.start, hstart])]
    simpa using hd
  · obtain ⟨path, more, htake, hlast⟩ := hd.takePath hs
    have hsome : o.start = some s := hd.start.trans hs
    have hd' := hd.extend more
    rw [htake, if_pos (by simp [hsome])]
    refine { hd' with paths := ?_, start := rfl, startNode := by simp, edges := .nil }
    rw [Outline.current_of_start hsome]
    exact rel_append hd'.paths (.cons hlast .nil)

lemma Draws.move (h : Move b b') : ∃ o', o.Step b.arena.len o' ∧ Draws b' o' := by
  cases h with
  | extend nodes => exact ⟨o, .silent, hd.extend nodes⟩
  | rehop edge min max => exact ⟨o, .silent, hd.settles (settles_rehop _ edge min max)⟩
  | pattern => exact ⟨o.pattern, .pattern, hd.pattern⟩
  | node var labels hroom =>
    rcases eq_none_or_eq_some b.pendingEdge with hpending | ⟨pending, hpending⟩
    · have hstart := hroom.resolve_left (by simp [hpending])
      exact ⟨_, .startAt _ (hd.start.trans hstart) le_rfl, hd.startNodeAt var labels hpending hstart⟩
    · exact ⟨_, .edgeTo _ _ le_rfl, hd.edgeNode var labels (by rw [hpending]; rfl)⟩
  | _ => exact ⟨o, .silent, { hd with }⟩

end

lemma kind_eq_none_iff (hd : Draws b o) : o.kind = none ↔ b.clauseMode = some .with_ := by
  unfold Outline.kind ClauseMode.patternKind
  rw [hd.mode]
  split <;> simp_all

lemma kind_of_matching (hd : Draws b o) (hmode : b.matching = true) : o.kind = some (.match_ b.isOptionalMatch) := by
  unfold matching at hmode
  unfold Outline.kind ClauseMode.patternKind
  rw [hd.mode, hd.optional]
  split <;> simp_all

lemma current_eq_nil_iff (hd : Draws b o) : o.current = [] ↔ b.closePath.1 = [] := by
  have hlength := hd.closePath.1.length_eq
  rw [← length_eq_zero_iff, ← hlength, length_eq_zero_iff]

section

variable {paths : List NodeHandle} {l : List (List PathNode)}

section

variable (hd : Draws b o) (hpaths : List.Forall₂ b.arena.IsPath paths l) (hne : paths ≠ [])

include hd hpaths hne

lemma Draws.flush_create (hmode : b.clauseMode = some .create) :
    Draws (b.flushPaths paths) { o with writes := o.writes ++ [(some .create, l.flatten)] } := by
  rw [flushPaths_create hne hmode]
  have hd' := hd.extend [.createClause paths]
  refine { hd' with writes := rel_append hd'.writes (.cons (.create getElem?_concat_length ?_) .nil) }
  exact hpaths.imp fun _ _ hp => hp.mono (settles_append _ _)

lemma Draws.flush_merge (hmode : b.clauseMode = some .merge) :
    Draws (b.flushPaths paths) { o with writes := o.writes ++ [(some .merge, (l.take 1).flatten)] } := by
  cases hpaths with
  | nil => exact absurd rfl hne
  | @cons path _ _ _ hpath _ =>
    rw [flushPaths_merge hmode]
    have hd' := hd.extend [.mergeClause path b.currentOnCreateSet b.currentOnMatchSet]
    refine { hd' with writes := rel_append hd'.writes (.cons (.merge getElem?_concat_length ?_) .nil) }
    simpa using hpath.mono (settles_append _ _)

lemma Draws.flush_match (hmode : b.matching = true) :
    Draws (b.flushPaths paths) { o with reads := o.reads ++ [(some (.match_ b.isOptionalMatch), l.flatten)] } := by
  obtain ⟨more, condition, clause, hflush, hnode, -⟩ := flushPaths_match paths hne hmode
  rw [hflush]
  have hd' := hd.extend more
  refine { hd' with matches_ := ?_, reads := rel_append hd'.reads (.cons (.match_ hnode ?_) .nil) }
  · intro h hh
    rcases mem_append.mp hh with hh | hh
    · exact hd'.matches_ h hh
    · obtain rfl := mem_singleton.mp hh
      exact ⟨_, _, _, hnode⟩
  · exact hpaths.imp fun _ _ hp => hp.mono (settles_append _ _)

end

end

lemma Draws.flushPaths (hd : Draws b o) (hmode : b.clauseMode ≠ some .with_) :
    Draws (b.closePath.2.flushPaths b.closePath.1) o.flush := by
  obtain ⟨hpaths, hclose⟩ := hd.closePath
  have hmodes := clauseMode_closePath b
  have hnil := current_eq_nil_iff hd
  have hnext : o.mode ≠ some .merge → o.next = o.current.flatten := fun h => by rw [Outline.next, if_neg h]
  generalize b.closePath.1 = paths at hpaths hnil ⊢
  generalize b.closePath.2 = s at hpaths hclose hmodes ⊢
  have hmode' : o.mode = s.clauseMode := hclose.mode
  by_cases hcurrent : o.current = []
  · obtain ⟨k, hkind⟩ := ne_none_iff_exists'.mp (mt (kind_eq_none_iff hd).mp hmode)
    rw [hnil.mp hcurrent, flushPaths_nil]
    unfold Outline.flush
    rw [hkind]
    simpa [hcurrent] using hclose
  · have hne : paths ≠ [] := fun h => hcurrent (hnil.mpr h)
    unfold Outline.flush
    rcases matching_cases (b := s) (by rwa [hmodes]) with hcreate | hmerge | hmatch
    · have hkind : o.kind = some .create := by rw [Outline.kind, hmode', hcreate]; rfl
      simpa [hkind, hcurrent, hnext (by rw [hmode', hcreate]; simp)] using hclose.flush_create hpaths hne hcreate
    · have hkind : o.kind = some .merge := by rw [Outline.kind, hmode', hmerge]; rfl
      have htake : o.next = (o.current.take 1).flatten := by rw [Outline.next, if_pos (by rw [hmode', hmerge])]
      simpa [hkind, hcurrent, htake] using hclose.flush_merge hpaths hne hmerge
    · have hkind₀ := kind_of_matching hclose hmatch
      have hkind : o.kind = some (.match_ s.isOptionalMatch) := hkind₀
      have hnot : o.mode ≠ some .merge := by
        rintro h
        simp [matching, ← hmode', h] at hmatch
      simpa [hkind, hcurrent, hnext hnot] using hclose.flush_match hpaths hne hmatch

lemma Draws.flushSet (hd : Draws b o) : ∃ o', (o' = o ∨ o' = o.write) ∧ Draws b.flushSet o' := by
  obtain ⟨more, clauses, hflush, ⟨-, rfl, rfl⟩ | ⟨-, rfl, rfl⟩⟩ := flushSet_spec b
  · refine ⟨o, .inl rfl, ?_⟩
    rw [hflush]
    simpa using { hd with }
  · refine ⟨o.write, .inr rfl, ?_⟩
    rw [hflush]
    have hd' := hd.extend [.setClause b.currentSetItems]
    exact { hd' with writes := rel_append hd'.writes (.cons (.write getElem?_concat_length rfl) .nil) }

theorem Draws.flush (hd : Draws b o) : ∃ o', (o' = o.flush ∨ o' = o.flush.write) ∧ Draws b.flushCurrentPath o' := by
  by_cases hmode : b.clauseMode = some .with_
  · refine ⟨o.flush, .inl rfl, ?_⟩
    rw [Outline.flush_of_no_kind ((kind_eq_none_iff hd).mpr hmode)]
    obtain ⟨more, clauses, hflush⟩ := flush_inside hmode
    rw [hflush]
    exact { hd.extend more with mode := rfl }
  · rw [flush_eq hmode]
    exact (hd.flushPaths hmode).flushSet

lemma Draws.opening (hd : Draws b o) (h : Opening b b') : ∃ o', Draws b' o' ∧
      (o.Step b.arena.len o' ∨ o' = o.write ∨ ∃ m opt, o' = { o with mode := m, optional := opt }) := by
  cases h with
  | move h =>
    obtain ⟨o', hstep, hd'⟩ := hd.move h
    exact ⟨o', hd', .inl hstep⟩
  | mode m isOptional =>
    exact ⟨{ o with mode := some m, optional := isOptional }, { hd with mode := rfl, optional := rfl },
      .inr (.inr ⟨_, _, rfl⟩)⟩
  | mutation h hn =>
    refine ⟨o.write, { hd with writes := rel_append hd.writes (.cons ?_ .nil) }, .inr (.inl rfl)⟩
    rcases hn with ⟨detach, targets, hn⟩ | ⟨targets, hn⟩
    · exact .write hn rfl
    · exact .write hn rfl
  | _ => exact ⟨o, { hd with }, .inl .silent⟩

def Tracks (b : QueryBuilder) (kind : PatternKind) (x : PathNode) : Prop :=
  x.node < b.arena.len ∧ ∃ o, Draws b o ∧ (o.Waiting kind x ∨ o.Written kind x)

lemma Tracks.moves (ht : Tracks b kind x) (h : ReflTransGen Move b b') : Tracks b' kind x := by
  induction h with
  | refl => exact ht
  | tail _ hmove ih =>
    obtain ⟨hlt, o, hd, hx⟩ := ih
    obtain ⟨o', hstep, hd'⟩ := hd.move hmove
    refine ⟨hlt.trans_le hmove.quiet.arena.len_le, o', hd', ?_⟩
    exact hx.imp (fun hx => hx.step hstep hlt) fun hx => hx.step hstep hlt

lemma Tracks.flush (ht : Tracks b kind x) : ∃ o, Draws b.flushCurrentPath o ∧ o.Written kind x := by
  obtain ⟨-, o, hd, hx⟩ := ht
  have hwritten : o.flush.Written kind x := hx.elim (·.flush) (·.flush)
  obtain ⟨o', rfl | rfl, hd'⟩ := hd.flush
  · exact ⟨_, hd', hwritten⟩
  · exact ⟨_, hd', hwritten.write⟩

lemma Draws.written_openings (hd : Draws b o) (hx : o.Written kind x) (hlt : x.node < b.arena.len)
    (h : ReflTransGen Opening b b') : ∃ o', Draws b' o' ∧ o'.Written kind x := by
  induction h with
  | refl => exact ⟨o, hd, hx⟩
  | tail hsteps hopening ih =>
    obtain ⟨o₁, hd₁, hx₁⟩ := ih
    have hlt₁ := hlt.trans_le (keeps_of_openings hsteps).arena.len_le
    obtain ⟨o₂, hd₂, hstep | rfl | ⟨m, opt, rfl⟩⟩ := hd₁.opening hopening
    · exact ⟨o₂, hd₂, hx₁.step hstep hlt₁⟩
    · exact ⟨_, hd₂, hx₁.write⟩
    · exact ⟨_, hd₂, hx₁.mode⟩

lemma Draws.splitNode (hd : Draws b o) (var : Option String) (labels : Option LabelExpression)
    (hpending : b.pendingEdge = none) (hstart : b.currentPathStart.isSome = true) :
    ∃ o', (o' = o.flush ∨ o' = o.flush.write) ∧
      Draws (b.nodePatternInternal var labels) (o'.startAt b.arena.len) := by
  obtain ⟨o', ho', hd'⟩ := (hd.extend [.nodePattern var labels []]).flush
  refine ⟨o', ho', ?_⟩
  rw [nodePattern_split hpending hstart]
  refine { hd' with start := rfl, startNode := ?_ }
  intro s hs
  cases hs
  exact ⟨_, _, _, (keeps_flush _).arena.node getElem?_concat_length rfl⟩

lemma Tracks.closing (ht : Tracks b kind x) (h : Closing b b') : Tracks b' kind x := by
  obtain ⟨nodes, hkeeps⟩ := h.keeps
  have hlt : x.node < b'.arena.len :=
    ht.1.trans_le (((keeps_extend b nodes).trans (keeps_flush _)).trans hkeeps).arena.len_le
  cases h with
  | next h =>
    obtain ⟨o, hd, hx⟩ := ht.flush
    obtain ⟨o', hd', hx'⟩ := hd.written_openings hx (ht.1.trans_le (keeps_flush b).arena.len_le) h
    exact ⟨hlt, o', hd', .inr hx'⟩
  | node var labels hpending hstart =>
    obtain ⟨hnode, o, hd, hx⟩ := ht
    have hwritten : o.flush.Written kind x := hx.elim (·.flush) (·.flush)
    obtain ⟨o', rfl | rfl, hd'⟩ := hd.splitNode var labels hpending hstart
    · exact ⟨hlt, _, hd', .inr (hwritten.startAt hnode)⟩
    · exact ⟨hlt, _, hd', .inr (hwritten.write.startAt hnode)⟩

lemma Tracks.run {unicode : Unicode} {c : Call} (hproc : c.isProcedure = false) (ht : Tracks b kind x) :
    Tracks (c.run unicode b) kind x := by
  cases hc : c.closes b with
  | false => exact ht.moves (Call.moves_of_not_closes unicode hproc hc)
  | true => exact ht.closing (Call.closing_of_closes unicode hproc hc)

lemma exists_draws_moves (hd : ∃ o, Draws b o) (h : ReflTransGen Move b b') : ∃ o, Draws b' o := by
  induction h with
  | refl => exact hd
  | tail _ hmove ih =>
    obtain ⟨o, hd⟩ := ih
    obtain ⟨o', -, hd'⟩ := hd.move hmove
    exact ⟨o', hd'⟩

lemma exists_draws_openings (hd : ∃ o, Draws b o) (h : ReflTransGen Opening b b') : ∃ o, Draws b' o := by
  induction h with
  | refl => exact hd
  | tail _ hopening ih =>
    obtain ⟨o, hd⟩ := ih
    obtain ⟨o', hd', -⟩ := hd.opening hopening
    exact ⟨o', hd'⟩

lemma exists_draws_closing (hd : ∃ o, Draws b o) (h : Closing b b') : ∃ o, Draws b' o := by
  obtain ⟨o, hd⟩ := hd
  cases h with
  | next h =>
    obtain ⟨o', -, hd'⟩ := hd.flush
    exact exists_draws_openings ⟨o', hd'⟩ h
  | node var labels hpending hstart =>
    obtain ⟨o', -, hd'⟩ := hd.splitNode var labels hpending hstart
    exact ⟨_, hd'⟩

lemma Draws.yieldItems (hd : Draws b o) (items : List String) : Draws (b.yieldItems items) o := by
  unfold QueryBuilder.yieldItems
  split
  · exact hd
  · rename_i call _
    rcases b.arena.modify_cases call (setYieldItems items) with hmodify | ⟨e, hmodify⟩ <;> rw [hmodify]
    · exact hd.settles (settles_modify _ call (AstNode.settled_setYieldItems items))
    · exact hd

lemma exists_draws_run {unicode : Unicode} {c : Call} (hd : ∃ o, Draws b o) : ∃ o, Draws (c.run unicode b) o := by
  cases hproc : c.isProcedure with
  | false =>
    cases hc : c.closes b with
    | false => exact exists_draws_moves hd (Call.moves_of_not_closes unicode hproc hc)
    | true => exact exists_draws_closing hd (Call.closing_of_closes unicode hproc hc)
  | true =>
    obtain ⟨o, hd⟩ := hd
    cases c with
    | callProcedure name arguments =>
      obtain ⟨o', -, hd'⟩ := hd.flush
      exact ⟨o', { hd'.extend [_] with }⟩
    | yieldItems items => exact ⟨o, hd.yieldItems items⟩
    | _ => cases hproc

lemma exists_draws_after (unicode : Unicode) (calls : List Call) (hd : ∃ o, Draws b o) :
    ∃ o, Draws (after unicode b calls) o := by
  induction calls generalizing b with
  | nil => exact hd
  | cons c calls ih => exact ih (exists_draws_run hd)

def TakesNode (b : QueryBuilder) : Prop :=
  b.clauseMode ≠ some .with_ ∧ (b.pendingEdge.isSome → b.currentPathStart.isSome) ∧
    (b.clauseMode = some .merge → b.currentMatchPaths = [])

instance : DecidablePred TakesNode := fun _ => inferInstanceAs (Decidable (_ ∧ _ ∧ _))

def patternKind (b : QueryBuilder) : Option PatternKind := ClauseMode.patternKind b.isOptionalMatch b.clauseMode

def nextNode (b : QueryBuilder) : PathNode :=
  ⟨if b.pendingEdge.isSome then some (b.arena.len + 1) else none, b.arena.len⟩

lemma Draws.kind_eq (hd : Draws b o) : o.kind = b.patternKind := by
  unfold Outline.kind patternKind
  rw [hd.mode, hd.optional]

lemma lt_len_node (var : Option String) (labels : Option LabelExpression) (b : QueryBuilder) :
    b.arena.len < (b.nodePatternInternal var labels).arena.len := by
  have hextend : b.arena.len < (QueryAstArena.mk (b.arena.nodes ++ [.nodePattern var labels []])).len := by
    simp [len]
  cases hpending : b.pendingEdge with
  | some pending =>
    rw [nodePattern_edge hpending]
    simp [len]
  | none =>
    rcases eq_none_or_eq_some b.currentPathStart with hstart | ⟨s, hs⟩
    · rw [nodePattern_start hpending hstart]
      exact hextend
    · rw [nodePattern_split hpending (by rw [hs]; rfl)]
      exact hextend.trans_le (keeps_flush (b.alloc (.nodePattern var labels [])).2).arena.len_le

lemma tracks_node (hd : Draws b o) (htakes : b.TakesNode) (hkind : b.patternKind = some kind)
    (var : Option String) (labels : Option LabelExpression) :
    Tracks (b.nodePatternInternal var labels) kind b.nextNode := by
  obtain ⟨-, hedge, hmerge⟩ := htakes
  refine ⟨lt_len_node var labels b, ?_⟩
  have hkind' : o.kind = some kind := hd.kind_eq.trans hkind
  have hmerge' : o.mode = some .merge → o.paths = [] := by
    intro h
    have hpaths := hd.paths
    rw [hmerge (hd.mode.symm.trans h)] at hpaths
    exact forall₂_nil_left_iff.mp hpaths
  unfold nextNode
  cases hpending : b.pendingEdge with
  | some pending =>
    have hsome : b.pendingEdge.isSome = true := by rw [hpending]; rfl
    have hstart : o.start.isSome = true := hd.start ▸ hedge hsome
    exact ⟨_, hd.edgeNode var labels hsome, .inl (Outline.edgeTo_waiting hd.below hstart hkind' hmerge')⟩
  | none =>
    rcases eq_none_or_eq_some b.currentPathStart with hstart | ⟨s, hs⟩
    · exact ⟨_, hd.startNodeAt var labels hpending hstart, .inl (Outline.startAt_waiting hd.below hkind' hmerge')⟩
    · obtain ⟨-, hpaths⟩ := Outline.flush_start hkind'
      have hkind₁ := Outline.kind_flush hkind'
      obtain ⟨o₁, rfl | rfl, hd₁⟩ := hd.splitNode var labels hpending (by rw [hs]; rfl)
      · exact ⟨_, hd₁, .inl (Outline.startAt_waiting hd.below.flush hkind₁ fun _ => hpaths)⟩
      · exact ⟨_, hd₁, .inl (Outline.startAt_waiting hd.below.flush.write hkind₁ fun _ => hpaths)⟩

lemma map_patternClause {a : QueryAstArena} (h : List.Forall₂ a.IsClause clauses cs) :
    clauses.map a.patternClause = cs := by
  induction h with
  | nil => rfl
  | cons hc _ ih => rw [map_cons, hc.patternClause_eq, ih]

lemma Draws.patternClauses {a : QueryAstArena} (hd : Draws b o) (ha : b.arena.Settles a) :
    (b.matchClauses ++ b.mutationClauses).map a.patternClause = o.clauses := by
  have hd' := hd.settles ha
  rw [map_append, map_patternClause hd'.reads, map_patternClause hd'.writes]
  rfl

end QueryBuilder

end Voyager
