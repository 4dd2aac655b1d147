import Voyager.Builder.Patterns

/-! That the statement has every pattern and every write that was given to the builder. -/

namespace Voyager

open Relation QueryAstArena List

inductive WriteKind
  | set | onCreate | onMatch | delete | remove
deriving DecidableEq, Repr

abbrev WriteItem := WriteKind × NodeHandle

namespace QueryAstArena

variable (a : QueryAstArena)

def writeItems (clause : NodeHandle) : List WriteItem :=
  match a.nodes[clause]? with
  | some (.setClause items) => items.map (.set, ·)
  | some (.mergeClause _ onCreate onMatch) => onCreate.map (.onCreate, ·) ++ onMatch.map (.onMatch, ·)
  | some (.deleteClause _ targets) => targets.map (.delete, ·)
  | some (.removeClause items) => items.map (.remove, ·)
  | _ => []

def statementMatches (root : NodeHandle) : List NodeHandle :=
  match a.nodes[root]? with
  | some (.queryStatement _ _ _ matches_ _ _ _ _) => matches_
  | _ => []

def statementMutations (root : NodeHandle) : List NodeHandle :=
  match a.nodes[root]? with
  | some (.queryStatement _ _ _ _ _ _ mutations _) => mutations
  | _ => []

def HoldsOnce (clauses : List NodeHandle) (kind : PatternKind) (x : PathNode) : Prop :=
  clauses.countP (fun c => x ∈ (a.patternClause c).2) = 1 ∧
    ∀ c ∈ clauses, x ∈ (a.patternClause c).2 → (a.patternClause c).1 = some kind

variable {a a' : QueryAstArena} {w : WriteItem}

lemma mem_writeItems_mono (ha : a.Settles a') {clause : NodeHandle} (hw : w ∈ a.writeItems clause) :
    w ∈ a'.writeItems clause := by
  cases hn : a.nodes[clause]? with
  | none => simp [writeItems, hn] at hw
  | some n =>
    have hfinal : n.isFinal = true := by
      cases n <;> first | rfl | simp [writeItems, hn] at hw
    unfold writeItems at hw ⊢
    rwa [ha.node hn hfinal, ← hn]

end QueryAstArena

namespace QueryBuilder

variable {unicode : Unicode} {b b' : QueryBuilder} {kind : PatternKind} {x : PathNode} {w : WriteItem}

def pendingWrites (b : QueryBuilder) : List WriteItem :=
  b.currentSetItems.map (.set, ·) ++ b.currentOnCreateSet.map (.onCreate, ·) ++ b.currentOnMatchSet.map (.onMatch, ·)

def HasWrite (b : QueryBuilder) (w : WriteItem) : Prop :=
  w ∈ b.pendingWrites ∨ ∃ clause ∈ b.mutationClauses, w ∈ b.arena.writeItems clause

lemma mem_writes_mono (ha : b.arena.Settles b'.arena) (hm : b.mutationClauses <+: b'.mutationClauses)
    (hw : ∃ clause ∈ b.mutationClauses, w ∈ b.arena.writeItems clause) :
    ∃ clause ∈ b'.mutationClauses, w ∈ b'.arena.writeItems clause := by
  obtain ⟨clause, hclause, hw⟩ := hw
  exact ⟨clause, hm.subset hclause, mem_writeItems_mono ha hw⟩

lemma HasWrite.quiet (h : Quiet b b') (hw : HasWrite b w) : HasWrite b' w := by
  refine hw.imp (fun hw => ?_) (mem_writes_mono h.arena (h.mutations ▸ prefix_rfl))
  unfold pendingWrites at hw ⊢
  rcases mem_append.mp hw with hw | hw
  · rcases mem_append.mp hw with hw | hw
    · exact mem_append_left _ (mem_append_left _ (map_subset _ h.setItems hw))
    · exact mem_append_left _ (mem_append_right _ (map_subset _ h.onCreate hw))
  · exact mem_append_right _ (map_subset _ h.onMatch hw)

def nextWrites (b : QueryBuilder) : List WriteItem :=
  if b.clauseMode = some .with_ then []
  else
    b.currentSetItems.map (.set, ·) ++
      if b.clauseMode = some .merge ∧ b.hasPath = true then
        b.currentOnCreateSet.map (.onCreate, ·) ++ b.currentOnMatchSet.map (.onMatch, ·)
      else []

lemma flushSet_writes (hw : w ∈ b.currentSetItems.map (WriteKind.set, ·)) :
    ∃ clause ∈ b.flushSet.mutationClauses, w ∈ b.flushSet.arena.writeItems clause := by
  obtain ⟨more, clauses, hflush, ⟨hnil, -, -⟩ | ⟨-, rfl, rfl⟩⟩ := flushSet_spec b
  · rw [hnil] at hw
    cases hw
  · rw [hflush]
    refine ⟨b.arena.len, mem_append_right _ mem_cons_self, ?_⟩
    simpa [writeItems, len] using hw

inductive PathsWritten (b s : QueryBuilder) : Prop
  | merge (hmode : b.clauseMode = some .merge) (hpath : b.hasPath = true) {clause path : NodeHandle}
      (hclause : clause ∈ s.mutationClauses)
      (hn : s.arena.nodes[clause]? = some (.mergeClause path b.currentOnCreateSet b.currentOnMatchSet))
  | create (hmode : b.clauseMode = some .create) (hpath : b.hasPath = true) (hne : s.mutationClauses ≠ [])
      (hcreate : s.currentOnCreateSet = b.currentOnCreateSet) (hmatch : s.currentOnMatchSet = b.currentOnMatchSet)
  | other (hmode : b.matching = true ∨ b.hasPath = false) (hclauses : s.mutationClauses = b.mutationClauses)
      (hcreate : s.currentOnCreateSet = b.currentOnCreateSet) (hmatch : s.currentOnMatchSet = b.currentOnMatchSet)

lemma flushPaths_written (paths : List NodeHandle) (hmode : b.clauseMode ≠ some .with_)
    (hpaths : paths ≠ [] ↔ b'.hasPath = true) (hb : b'.clauseMode = b.clauseMode)
    (hclauses : b'.mutationClauses = b.mutationClauses) (hcreate : b'.currentOnCreateSet = b.currentOnCreateSet)
    (hmatch : b'.currentOnMatchSet = b.currentOnMatchSet) :
    (b.flushPaths paths).currentSetItems = b.currentSetItems ∧ PathsWritten b' (b.flushPaths paths) := by
  cases paths with
  | nil =>
    have hpath : b'.hasPath = false := by simpa using hpaths.not.mp (by simp)
    exact ⟨rfl, .other (.inr hpath) hclauses.symm hcreate.symm hmatch.symm⟩
  | cons path rest =>
    have hpath := hpaths.mp (by simp)
    rcases matching_cases hmode with hmode | hmode | hmode
    · rw [flushPaths_create (by simp) hmode]
      exact ⟨rfl, .create (hb.trans hmode) hpath (by simp) hcreate.symm hmatch.symm⟩
    · rw [flushPaths_merge hmode, ← hcreate, ← hmatch]
      exact ⟨rfl, .merge (hb.trans hmode) hpath (mem_append_right _ mem_cons_self)
        getElem?_concat_length⟩
    · obtain ⟨more, condition, clause, hflush, -⟩ := flushPaths_match (path :: rest) (by simp) hmode
      have hmatching : b'.matching = true := by
        unfold matching at hmode ⊢
        rw [hb]
        exact hmode
      rw [hflush]
      exact ⟨rfl, .other (.inl hmatching) hclauses.symm hcreate.symm hmatch.symm⟩

lemma flush_outside (hmode : b.clauseMode ≠ some .with_) :
    ∃ s : QueryBuilder, b.flushCurrentPath = s.flushSet ∧ s.currentSetItems = b.currentSetItems ∧ PathsWritten b s := by
  obtain ⟨paths, more, mode, var, edges, hclose, hpaths, -⟩ := closePath_spec b
  rw [flush_eq hmode, hclose]
  exact ⟨_, rfl, flushPaths_written paths hmode hpaths rfl rfl rfl rfl⟩

lemma mem_pendingWrites : w ∈ b.pendingWrites ↔ w ∈ b.currentSetItems.map (WriteKind.set, ·) ∨
    w ∈ b.currentOnCreateSet.map (WriteKind.onCreate, ·) ++ b.currentOnMatchSet.map (WriteKind.onMatch, ·) := by
  unfold pendingWrites
  rw [append_assoc, mem_append]

lemma flush_writes (hw : w ∈ b.nextWrites) :
    ∃ clause ∈ b.flushCurrentPath.mutationClauses, w ∈ b.flushCurrentPath.arena.writeItems clause := by
  unfold nextWrites at hw
  split_ifs at hw with hmode hmerge
  · cases hw
  · obtain ⟨s, hflush, hset, hpaths⟩ := flush_outside hmode
    rw [hflush]
    rcases mem_append.mp hw with hw | hw
    · exact flushSet_writes (hset ▸ hw)
    · cases hpaths with
      | merge _ _ hclause hn =>
        refine mem_writes_mono (keeps_flushSet s).arena (keeps_flushSet s).mutations ⟨_, hclause, ?_⟩
        simpa only [writeItems, hn] using hw
      | create hcreate =>
        rw [hmerge.1] at hcreate
        cases hcreate
      | other hmatch => simp [matching, hmerge] at hmatch
  · obtain ⟨s, hflush, hset, -⟩ := flush_outside hmode
    rw [hflush]
    exact flushSet_writes (by simpa [hset] using hw)

lemma HasWrite.flush (hw : HasWrite b w) : HasWrite b.flushCurrentPath w := by
  rcases hw with hw | hw
  · by_cases hnext : w ∈ b.nextWrites
    · exact .inr (flush_writes hnext)
    · refine .inl ?_
      by_cases hmode : b.clauseMode = some .with_
      · obtain ⟨more, clauses, hflush⟩ := flush_inside hmode
        rw [hflush]
        exact hw
      · obtain ⟨s, hflush, hset, hpaths⟩ := flush_outside hmode
        obtain ⟨more, clauses, hspec, -⟩ := flushSet_spec s
        rw [hflush, hspec]
        rw [nextWrites, if_neg hmode, mem_append, not_or] at hnext
        rcases mem_pendingWrites.mp hw with hw | hw
        · exact absurd hw hnext.1
        · cases hpaths with
          | merge hmerge hpath =>
            rw [if_pos ⟨hmerge, hpath⟩] at hnext
            exact absurd hw hnext.2
          | create _ _ _ hcreate hmatch | other _ _ hcreate hmatch => exact mem_pendingWrites.mpr (.inr (by rwa [hcreate, hmatch]))
  · exact .inr (mem_writes_mono (keeps_flush b).arena (keeps_flush b).mutations hw)

lemma HasWrite.opening (hw : HasWrite b w) (h : Opening b b') : HasWrite b' w := by
  cases h with
  | move h => exact hw.quiet h.quiet
  | mutation h =>
    rcases hw with hw | hw
    · exact .inl hw
    · exact .inr (mem_writes_mono (b := b) (.refl _) (prefix_append _ _) hw)
  | _ => exact hw

lemma HasWrite.closing (hw : HasWrite b w) (h : Closing b b') : HasWrite b' w := by
  cases h with
  | next h =>
    induction h with
    | refl => exact hw.flush
    | tail _ hopening ih => exact ih.opening hopening
  | node var labels hpending hstart =>
    rw [nodePattern_split hpending hstart]
    exact (hw.quiet (Move.extend [.nodePattern var labels []]).quiet).flush

variable {c : Call}

lemma HasWrite.run (hproc : c.isProcedure = false) (hw : HasWrite b w) : HasWrite (c.run unicode b) w := by
  cases hc : c.closes b with
  | false => exact hw.quiet (quiet_of_moves (Call.moves_of_not_closes unicode hproc hc))
  | true => exact hw.closing (Call.closing_of_closes unicode hproc hc)

def Call.writes (b : QueryBuilder) : Call → List WriteItem
  | onCreateSet var property val =>
    let (value, b) := b.literal val
    [(.onCreate, (b.assignment var property value).1)]
  | onCreateSetExpr var property expr => [(.onCreate, (b.assignment var property expr).1)]
  | onMatchSet var property val =>
    let (value, b) := b.literal val
    [(.onMatch, (b.assignment var property value).1)]
  | onMatchSetExpr var property expr => [(.onMatch, (b.assignment var property expr).1)]
  | setProperty var property val =>
    let (value, b) := b.literal val
    [(.set, (b.assignment var property value).1)]
  | setPropertyExpr var property expr => [(.set, (b.assignment var property expr).1)]
  | setMerge var valMap =>
    let (target, b) := b.ident var
    let (value, b) := b.literal valMap
    [(.set, (b.alloc (.setItem target value true)).1)]
  | delete targets | detachDelete targets => (b.flushCurrentPath.idents targets).1.map (.delete, ·)
  | removeProperty var property => [(.remove, (b.flushCurrentPath.prop var property).1)]
  | _ => []

lemma hasWrite_of_writes (hw : w ∈ c.writes b) : HasWrite (c.run unicode b) w := by
  cases c with
  | onCreateSet | onCreateSetExpr =>
    obtain rfl := mem_singleton.mp hw
    refine .inl (mem_pendingWrites.mpr (.inr (mem_append_left _ (mem_map_of_mem ?_))))
    exact mem_append_right _ mem_cons_self
  | onMatchSet | onMatchSetExpr =>
    obtain rfl := mem_singleton.mp hw
    refine .inl (mem_pendingWrites.mpr (.inr (mem_append_right _ (mem_map_of_mem ?_))))
    exact mem_append_right _ mem_cons_self
  | setProperty | setPropertyExpr | setMerge =>
    obtain rfl := mem_singleton.mp hw
    refine .inl (mem_pendingWrites.mpr (.inl (mem_map_of_mem ?_)))
    exact mem_append_right _ mem_cons_self
  | delete targets | detachDelete targets | removeProperty var property =>
    refine .inr ⟨_, mem_append_right _ mem_cons_self, ?_⟩
    unfold writeItems
    erw [alloc_node]
    exact hw
  | _ => cases hw

def EndsComplete (b : QueryBuilder) : Prop :=
  (b.clauseMode = some .with_ → b.currentSetItems = []) ∧
    (b.currentOnCreateSet ≠ [] ∨ b.currentOnMatchSet ≠ [] → b.clauseMode = some .merge ∧ b.hasPath = true) ∧
    (b.clauseMode = some .create ∨ b.clauseMode = some .merge →
      b.hasPath = true ∨ b.mutationClauses ≠ [] ∨ b.currentSetItems ≠ [])

instance : DecidablePred EndsComplete := fun _ => inferInstanceAs (Decidable (_ ∧ _ ∧ _))

lemma EndsComplete.nextWrites (h : b.EndsComplete) (hw : w ∈ b.pendingWrites) : w ∈ b.nextWrites := by
  obtain ⟨hset, hmerge, -⟩ := h
  unfold QueryBuilder.nextWrites
  rcases mem_pendingWrites.mp hw with hw | hw
  · have hmode : b.clauseMode ≠ some .with_ := by
      intro hmode
      rw [hset hmode] at hw
      cases hw
    rw [if_neg hmode]
    exact mem_append_left _ hw
  · have hsome : b.currentOnCreateSet ≠ [] ∨ b.currentOnMatchSet ≠ [] := by
      by_contra hnone
      rw [not_or, not_not, not_not] at hnone
      rw [hnone.1, hnone.2] at hw
      cases hw
    obtain ⟨hmode, hpath⟩ := hmerge hsome
    rw [if_neg (by simp [hmode]), if_pos ⟨hmode, hpath⟩]
    exact mem_append_right _ hw

lemma EndsComplete.writes (h : b.EndsComplete) (hw : HasWrite b w) :
    ∃ clause ∈ b.flushCurrentPath.mutationClauses, w ∈ b.flushCurrentPath.arena.writeItems clause :=
  hw.elim (fun hw => flush_writes (h.nextWrites hw))
    (mem_writes_mono (keeps_flush b).arena (keeps_flush b).mutations)

lemma hasMutations_eq_false_iff : b.hasMutations = false ↔ b.mutationClauses = [] ∧ b.pendingWrites = [] ∧
    b.clauseMode ≠ some .create ∧ b.clauseMode ≠ some .merge := by
  unfold hasMutations pendingWrites
  simp [and_assoc]

theorem EndsComplete.hasMutations_iff (h : b.EndsComplete) :
    b.hasMutations = true ↔ b.flushCurrentPath.mutationClauses ≠ [] := by
  rw [← Bool.not_eq_false, hasMutations_eq_false_iff]
  apply not_congr
  constructor
  · rintro ⟨hclauses, hwrites, hcreate, hmerge⟩
    by_cases hmode : b.clauseMode = some .with_
    · obtain ⟨more, clauses, hflush⟩ := flush_inside hmode
      rw [hflush, hclauses]
    · obtain ⟨s, hflush, hset, hpaths⟩ := flush_outside hmode
      have hnil : b.currentSetItems = [] := by
        have := hwrites
        simp only [pendingWrites, append_eq_nil_iff, map_eq_nil_iff] at this
        exact this.1.1
      cases hpaths with
      | merge h => exact absurd h hmerge
      | create h => exact absurd h hcreate
      | other _ hs => rw [hflush, flushSet, if_pos (by rw [hset, hnil]; rfl), hs, hclauses]
  · intro hnone
    have hclauses : b.mutationClauses = [] := by
      have hprefix := (keeps_flush b).mutations
      rw [hnone] at hprefix
      exact prefix_nil.mp hprefix
    have hwrites : b.pendingWrites = [] := by
      apply eq_nil_iff_forall_not_mem.mpr
      intro w hw
      obtain ⟨clause, hclause, -⟩ := h.writes (.inl hw)
      rw [hnone] at hclause
      cases hclause
    have hset : b.currentSetItems = [] := by
      simp only [pendingWrites, append_eq_nil_iff, map_eq_nil_iff] at hwrites
      exact hwrites.1.1
    have hpath : b.clauseMode = some .create ∨ b.clauseMode = some .merge → b.hasPath = true := fun hmode =>
      (h.2.2 hmode).resolve_right (by simp [hclauses, hset])
    rw [← not_or]
    refine ⟨hclauses, hwrites, fun hmode => ?_⟩
    obtain ⟨s, hflush, -, hpaths⟩ := flush_outside (b := b) (by rcases hmode with hmode | hmode <;> simp [hmode])
    have hs : s.mutationClauses = [] := by
      have hprefix := (keeps_flushSet s).mutations
      rw [← hflush, hnone] at hprefix
      exact prefix_nil.mp hprefix
    cases hpaths with
    | merge _ _ hclause =>
      rw [hs] at hclause
      cases hclause
    | create _ _ hne => exact hne hs
    | other hother =>
      rcases hmode with hmode | hmode <;> simp [matching, hmode, hpath] at hother

lemma statement_build (hproc : b.procedureCall = none) : b.flushCurrentPath.arena.Settles b.build.1 ∧
      b.build.1.statementMatches b.build.2 = b.flushCurrentPath.matchClauses ∧
      b.build.1.statementMutations b.build.2 = b.flushCurrentPath.mutationClauses := by
  obtain ⟨more, ret, harena, hroot⟩ := build_spec hproc
  refine ⟨?_, ?_, ?_⟩
  · rw [harena]
    exact settles_append _ _
  · rw [statementMatches, hroot]
  · rw [statementMutations, hroot]

lemma Tracks.build (ht : Tracks b kind x) (hproc : b.procedureCall = none) :
    b.build.1.HoldsOnce (b.build.1.statementMatches b.build.2 ++ b.build.1.statementMutations b.build.2) kind x := by
  obtain ⟨o, hd, hx⟩ := ht.flush
  obtain ⟨hsettles, hmatches, hmutations⟩ := statement_build hproc
  rw [hmatches, hmutations]
  have hmap := hd.patternClauses hsettles
  constructor
  · have hcount := hx.holders_eq
    rw [Outline.holders, ← hmap, countP_map] at hcount
    exact hcount
  · intro c hc hmem
    exact hx.kind_eq _ (hmap ▸ mem_map_of_mem hc) hmem

def Call.nodePattern (unicode : Unicode) : Call → Option (Option String × Option LabelExpression)
  | node var labels => some (var, LabelExpression.fromLabels unicode labels)
  | nodeExpr var expr => some (var, some expr)
  | _ => none

lemma run_nodePattern {var : Option String} {labels : Option LabelExpression}
    (hc : c.nodePattern unicode = some (var, labels)) : c.run unicode b = b.nodePatternInternal var labels := by
  cases c with
  | node | nodeExpr =>
    cases hc
    rfl
  | _ => cases hc

/-- Node patterns are given to a clause that takes them, and nothing is left at the end. -/
def Complete (unicode : Unicode) : List Call → Prop :=
  Along unicode (fun b c => (c.nodePattern unicode).isSome → b.TakesNode) EndsComplete new

instance (unicode : Unicode) : DecidablePred (Complete unicode) := fun _ => inferInstanceAs (Decidable (Along ..))

/-- Every node pattern is in the statement once, with the edge that led to it, in a clause of the kind that was open. -/
def KeepsPatterns (unicode : Unicode) (calls : List Call) : Prop :=
  ∀ before c rest var labels, calls = before ++ c :: rest → c.nodePattern unicode = some (var, labels) →
    let b := after unicode new before
    let (arena, root) := (after unicode new calls).build
    (∃ kind, b.patternKind = some kind ∧
      arena.HoldsOnce (arena.statementMatches root ++ arena.statementMutations root) kind b.nextNode) ∧
    arena.nodes[b.nextNode.node]? = some (.nodePattern var labels []) ∧
    ∀ pending, b.pendingEdge = some pending → ∃ edge, b.nextNode.edge = some edge ∧ ∃ min max,
      arena.nodes[edge]? = some (.edgePattern pending.var pending.labelExpression pending.direction min max []
        b.nextNode.node)

def KeepsWrites (unicode : Unicode) (calls : List Call) : Prop :=
  ∀ before c rest w, calls = before ++ c :: rest → w ∈ c.writes (after unicode new before) →
    let (arena, root) := (after unicode new calls).build
    ∃ clause ∈ arena.statementMutations root, w ∈ arena.writeItems clause

def HasMutationsExact (unicode : Unicode) (calls : List Call) : Prop :=
  let b := after unicode new calls
  b.hasMutations = true ↔ b.build.1.statementMutations b.build.2 ≠ []

lemma settles_run (hproc : c.isProcedure = false) : b.arena.Settles (c.run unicode b).arena := by
  cases hc : c.closes b with
  | false => exact (quiet_of_moves (Call.moves_of_not_closes unicode hproc hc)).arena
  | true =>
    obtain ⟨nodes, hkeeps⟩ := (Call.closing_of_closes unicode hproc hc).keeps
    exact ((keeps_extend b nodes).trans ((keeps_flush _).trans hkeeps)).arena

lemma settles_after (calls : List Call) (hproc : ∀ c ∈ calls, c.isProcedure = false) :
    b.arena.Settles (after unicode b calls).arena := by
  induction calls generalizing b with
  | nil => exact .refl _
  | cons c calls ih =>
    exact (settles_run (hproc c mem_cons_self)).trans (ih fun d hd => hproc d (mem_cons_of_mem c hd))

lemma settles_build (hproc : b.procedureCall = none) : b.arena.Settles b.build.1 :=
  (keeps_flush b).arena.trans (statement_build hproc).1

lemma TakesNode.exists_kind (h : b.TakesNode) : ∃ kind, b.patternKind = some kind := by
  have hmode := h.1
  unfold patternKind ClauseMode.patternKind
  split <;> simp_all

variable {calls : List Call}

section

variable (hproc : ∀ c ∈ calls, c.isProcedure = false) (hcomplete : Complete unicode calls)

include hproc hcomplete

lemma keepsPatterns_of_complete : KeepsPatterns unicode calls := by
  rintro before c rest var labels rfl hc
  set b := after unicode new before with hb
  have hrest : ∀ d ∈ rest, d.isProcedure = false := fun d hd => hproc d (by simp [hd])
  obtain ⟨htakes, hlater⟩ := Along.append hcomplete
  obtain ⟨kind, hkind⟩ := (htakes (by rw [hc]; rfl)).exists_kind
  obtain ⟨o, hd⟩ := exists_draws_after unicode before ⟨_, draws_new⟩
  have htracks : Tracks (c.run unicode b) kind b.nextNode := by
    rw [run_nodePattern hc]
    exact tracks_node hd (htakes (by rw [hc]; rfl)) hkind var labels
  have hend := (hlater.after (P := fun b' => Tracks b' kind b.nextNode) hrest
    (fun _ _ hproc _ ht => ht.run hproc) htracks).1
  have hcall : (after unicode new (before ++ c :: rest)).procedureCall = none := procedureCall_after _ hproc
  rw [after_append] at hcall ⊢
  have hsettles : (c.run unicode b).arena.Settles (after unicode b (c :: rest)).build.1 :=
    (settles_after rest hrest).trans (settles_build hcall)
  rw [run_nodePattern hc] at hsettles
  refine ⟨⟨kind, hkind, hend.build hcall⟩, hsettles.node (node_nodePattern var labels b) rfl, ?_⟩
  intro pending hpending
  refine ⟨b.arena.len + 1, by simp [nextNode, hpending], ?_⟩
  obtain ⟨n, hn, hsettled⟩ := hsettles.settled (edge_nodePattern var labels hpending)
  cases n with
  | edgePattern =>
    cases hsettled
    exact ⟨_, _, hn⟩
  | _ => cases hsettled

lemma keepsWrites_of_complete : KeepsWrites unicode calls := by
  rintro before c rest w rfl hw
  have hrest : ∀ d ∈ rest, d.isProcedure = false := fun d hd => hproc d (by simp [hd])
  obtain ⟨-, hlater⟩ := Along.append hcomplete
  obtain ⟨hend, hfinal⟩ := hlater.after (P := fun b => HasWrite b w) hrest (fun _ _ hproc _ hw => hw.run hproc)
    (hasWrite_of_writes hw)
  have hcall : (after unicode new (before ++ c :: rest)).procedureCall = none := procedureCall_after _ hproc
  rw [after_append] at hcall ⊢
  obtain ⟨hsettles, -, hmutations⟩ := statement_build hcall
  obtain ⟨clause, hclause, hmem⟩ := hfinal.writes hend
  exact ⟨clause, hmutations ▸ hclause, mem_writeItems_mono hsettles hmem⟩

end

theorem patterns_and_writes_kept (unicode : Unicode) (calls : List Call)
    (hproc : ∀ c ∈ calls, c.isProcedure = false) (hcomplete : Complete unicode calls) :
    KeepsPatterns unicode calls ∧ KeepsWrites unicode calls ∧ HasMutationsExact unicode calls := by
  refine ⟨keepsPatterns_of_complete hproc hcomplete, keepsWrites_of_complete hproc hcomplete, ?_⟩
  have hend : EndsComplete (after unicode new calls) :=
    (hcomplete.after (P := fun _ => True) hproc (fun _ _ _ _ _ => trivial) trivial).2
  have hcall : (after unicode new calls).procedureCall = none := procedureCall_after calls hproc
  obtain ⟨-, -, hmutations⟩ := statement_build hcall
  unfold HasMutationsExact
  dsimp only
  rw [hmutations]
  exact hend.hasMutations_iff

/-- `MATCH (a)-[:KNOWS]->(b) SET b.seen = true MERGE (c) ON CREATE SET c.age = 1` -/
def readAndWrite : List Call :=
  [.match_, .node (some "a") [], .toExprOpt none none, .node (some "b") [], .setProperty "b" "seen" (.bool true),
    .merge, .node (some "c") [], .onCreateSet "c" "age" (.int64 1)]

theorem patterns_and_writes_kept_merge :
    KeepsPatterns .ascii readAndWrite ∧ KeepsWrites .ascii readAndWrite ∧ HasMutationsExact .ascii readAndWrite :=
  patterns_and_writes_kept .ascii readAndWrite (by decide) (by decide)

def mergeTwo : List Call := [.merge, .node (some "a") [], .pattern, .node (some "b") []]

def setAfterWith : List Call :=
  [.match_, .node (some "n") [], .with_, .selectProperty "n" "age" (some "age"), .setProperty "n" "seen" (.bool true)]

def createNothing : List Call := [.match_, .node (some "n") [], .create]

theorem patterns_and_writes_lost :
    (∀ c ∈ mergeTwo ++ setAfterWith ++ createNothing, c.isProcedure = false) ∧
      ¬KeepsPatterns .ascii mergeTwo ∧ ¬KeepsWrites .ascii setAfterWith ∧ ¬HasMutationsExact .ascii createNothing := by
  refine ⟨by decide, fun h => ?_, fun h => ?_, by unfold HasMutationsExact; decide⟩
  · obtain ⟨⟨kind, -, hcount, -⟩, -⟩ := h (mergeTwo.take 3) _ [] _ _ rfl rfl
    revert hcount
    decide
  · obtain ⟨clause, hclause, -⟩ := h (setAfterWith.take 4) _ [] _ rfl (mem_singleton.mpr rfl)
    have hnone : ∀ clause, clause ∉ (after .ascii new setAfterWith).build.1.statementMutations
        (after .ascii new setAfterWith).build.2 := by
      exact eq_nil_iff_forall_not_mem.mp (by decide)
    exact hnone clause hclause

end QueryBuilder

end Voyager
