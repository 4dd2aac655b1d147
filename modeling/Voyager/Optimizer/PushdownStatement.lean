import Voyager.Optimizer.FoldStays
import Voyager.Optimizer.NodeScan
import Voyager.Optimizer.PushdownSound

namespace Voyager

open AstOptimizer Multiset Lib.Pipeline
open Lib (bind_ok)
open Interpretation

inductive ReadRoot (arena : QueryAstArena) (clauses : List NodeHandle) : Site → Prop
  | path {m optional paths condition path} : m ∈ clauses →
      arena.nodes[m]? = some (.matchClause optional paths condition) → path ∈ paths →
      ReadRoot arena clauses (.skeleton, path)
  | condition {m optional paths h} : m ∈ clauses →
      arena.nodes[m]? = some (.matchClause optional paths (some h)) → ReadRoot arena clauses (.expression, h)
  | predicate {m h} : m ∈ clauses → PatternPredicate arena m h → ReadRoot arena clauses (.expression, h)

variable (arena : QueryAstArena)

def matchReads (clauses : List NodeHandle) : Set Site :=
  reached arena {q | ReadRoot arena clauses q}

def mutationReads (mutations : List NodeHandle) : Set Site :=
  reached arena {q | ∃ u ∈ mutations, q = (.whole, u)}

/-- The clauses are distinct MATCH clauses without dangling handles, nothing else reads them or their node patterns
as a whole, and the mutations share with them no node that folding may write. A property access or an expression
may still refer to a pattern. -/
structure Unshared (arena : QueryAstArena) (clauses mutations : List NodeHandle) : Prop where
  nodup : clauses.Nodup
  clause : ∀ m ∈ clauses, ∃ optional paths condition,
    arena.nodes[m]? = some (.matchClause optional paths condition)
  valid : ∀ q ∈ matchReads arena clauses ∪ mutationReads arena mutations, q.2 < arena.len
  clauseUnread : ∀ m ∈ clauses, ∀ p, (p, m) ∉ matchReads arena clauses ∪ mutationReads arena mutations
  patternUnread : ∀ m ∈ clauses, ∀ k, PatternOf arena m k →
    (.whole, k) ∉ matchReads arena clauses ∪ mutationReads arena mutations
  apart : ∀ m ∈ clauses, ∀ m' ∈ clauses, ∀ k, PatternOf arena m k → PatternOf arena m' k → m = m'
  mutation : ∀ k, (.whole, k) ∈ mutationReads arena mutations → ∀ p, (p, k) ∈ matchReads arena clauses →
    p = .expression ∧ ∃ n, arena.nodes[k]? = some n ∧ n.isPattern = true

variable {V : Type} {I : Interpretation V} {a b : QueryAstArena} {clauses mutations : List NodeHandle}

lemma Unshared.layout (h : Unshared a clauses mutations) :
    Layout a clauses (matchReads a clauses) (mutationReads a mutations) where
  closed := closed_reached _
  valid := h.valid
  clause m hm := by
    obtain ⟨optional, paths, condition, hn⟩ := h.clause m hm
    refine ⟨optional, paths, condition, hn, fun path hpath => subset_reached _ (.path hm hn hpath), ?_⟩
    rintro w rfl
    exact subset_reached _ (.condition hm hn)
  predicate m hm w hw := subset_reached _ (.predicate hm hw)
  clauseUnread := h.clauseUnread
  patternUnread := h.patternUnread
  apart := h.apart

variable {reads others : Set Site}

lemma Layout.without_others (hl : Layout a clauses reads others) : Layout a clauses reads ∅ where
  closed := hl.closed
  valid q hq := hl.valid q (hq.imp_right False.elim)
  clause := hl.clause
  predicate := hl.predicate
  clauseUnread m hm p hq := hl.clauseUnread m hm p (hq.imp_right False.elim)
  patternUnread m hm k hk hq := hl.patternUnread m hm k hk (hq.imp_right False.elim)
  apart := hl.apart

def foldSites (others : Set Site) : Set Site :=
  {q | q ∈ others ∨ arena.len ≤ q.2}

lemma contained_foldSites (hclosed : Closed a others) : Contained (foldSites a others) a where
  inside h n hn hh := by
    have hlt : h < a.len := (List.getElem?_eq_some_iff.mp hn).1
    rcases hh with hh | ⟨hh, hpattern⟩
    · have hsite : (.whole, h) ∈ others := hh.resolve_right (by simpa using hlt)
      exact ⟨fun k hk => .inl (hclosed.body hsite hn hk), fun k hk => .inl (hclosed.operand hsite hn hk)⟩
    · have hsite : (.expression, h) ∈ others := hh.resolve_right (by simpa using hlt)
      have hview : Position.view .expression n = n := by
        cases n <;> first | rfl | cases hpattern
      exact ⟨fun k hk => .inl (hclosed.body hsite hn (by rwa [hview])),
        fun k hk => .inl (hclosed.operand hsite hn (by rwa [hview]))⟩
  fresh _ hh := ⟨.inr hh, .inr hh⟩

lemma optimizeMutations_rewrote {fuel : ℕ} {u : PUnit} (hclosed : Closed a others)
    (hmutations : ∀ m ∈ mutations, (.whole, m) ∈ others)
    (hok : mutations.forM (optimizeMutationClause (folds fuel)) a = .ok (u, b)) (hsize : b.len ≤ NodeHandle.null) :
    Rewrote (foldSites a others) a b := by
  have hstaysAll := Stays.forM fun m (_ : m ∈ mutations) =>
    optimizeMutationClause_stays (folds_stay (Set.mem_univ _) fuel) (Set.mem_univ (Position.whole, m))
  have hlen : a.len ≤ b.len := (hstaysAll a u b (contained_univ a) hok).2.1.len
  have hnull : (.whole, NodeHandle.null) ∈ foldSites a others := .inr (hlen.trans hsize)
  have hstays := Stays.forM fun m hm => optimizeMutationClause_stays (folds_stay hnull fuel) (.inl (hmutations m hm))
  exact (hstays a u b (contained_foldSites hclosed) hok).2.1

lemma rows_of_unseen (hl : Layout a clauses reads ∅) (hunseen : Unseen clauses (reads ∪ ∅) a b)
    (hclause : ∀ m ∈ clauses, b.nodes[m]? = a.nodes[m]?)
    (hpattern : ∀ m ∈ clauses, ∀ k, PatternOf a m k → b.nodes[k]? = a.nodes[k]?) :
    I.pipeline b clauses (I.whereOf b) = I.pipeline a clauses (I.whereOf a) := by
  refine pipeline_congr (fun m hm => stage_of_unseen hl hunseen hm) fun m hm r => ?_
  refine and_congr (patternsOf_of_unseen hl hunseen hm fun h =>
    hl.patternPredicate_of_unseen hunseen hm (hpattern m hm)) ?_
  obtain ⟨optional, paths, condition, hn, -, hcondition⟩ := hl.clause m hm
  rw [whereOf_iff hn, whereOf_iff ((hclause m hm).trans hn)]
  exact forall₂_congr fun h hh => holds_of_unseen hl hunseen (hcondition h hh)

lemma rows_of_rewrote {a₁ : QueryAstArena} (h : Unshared a clauses mutations)
    (hpreserves : Preserves I clauses (matchReads a clauses) reads (mutationReads a mutations) a a₁)
    (hrewrote : Rewrote (foldSites a₁ (mutationReads a mutations)) a₁ b) :
    I.pipeline b clauses (I.whereOf b) = I.pipeline a₁ clauses (I.whereOf a₁) := by
  have hl := hpreserves.layout
  -- a node that is rewritten is reached by the mutations
  have hkept : ∀ k n, a₁.nodes[k]? = some n → (.whole, k) ∉ mutationReads a mutations → b.nodes[k]? = some n := by
    intro k n hn hk
    rcases hrewrote.kept k n hn with hn' | ⟨hsite | hsite, -⟩
    · exact hn'
    · exact absurd hsite hk
    · exact absurd hsite (not_le.mpr (List.getElem?_eq_some_iff.mp hn).1)
  have hclause : ∀ m ∈ clauses, b.nodes[m]? = a₁.nodes[m]? := by
    intro m hm
    obtain ⟨optional, paths, condition, hn, -⟩ := hl.clause m hm
    rw [hn, hkept m _ hn fun hk => hl.clauseUnread m hm _ (.inr hk)]
  refine rows_of_unseen hl.without_others ⟨?_, hrewrote.len, fun m hm optional paths condition hn => ?_,
    hrewrote.statement⟩ hclause fun m hm k hk => ?_
  · rintro ⟨p, k⟩ (hq | hq)
    · obtain ⟨n, hn⟩ : ∃ n, a₁.nodes[k]? = some n := ⟨_, List.getElem?_eq_getElem (hl.valid _ (.inl hq))⟩
      by_cases hk : (.whole, k) ∈ mutationReads a mutations
      · have hread := (hpreserves.new _ hq).resolve_right (by simpa using h.valid _ (.inr hk))
        obtain ⟨rfl, n₀, hn₀, hpattern⟩ := h.mutation k hk p hread
        obtain ⟨n₁, hn₁, hview⟩ := hpreserves.unseen.view.node (.inl hread) hn₀
        cases hn.symm.trans hn₁
        rcases hrewrote.kept k n hn with hn' | ⟨-, n', hn', hview'⟩
        · rw [hn, hn']
        · rw [hn, hn', Option.map_some, Option.map_some, hview' ((isPattern_of_view hview).trans hpattern)]
      · rw [hn, hkept k n hn hk]
    · exact hq.elim
  · exact ⟨condition, (hclause m hm).trans hn⟩
  · have hunread : (.whole, k) ∉ mutationReads a mutations := fun hsite => hl.patternUnread m hm k hk (.inr hsite)
    obtain ⟨_, _, _, _, _, _, _, var, labels, predicates, hn⟩ := hk
    rw [hn, hkept k _ hn hunread]

theorem optimizeStatement_keeps_rows (I : Interpretation V) (arena arena' : QueryAstArena) (fuel : ℕ)
    (root : NodeHandle) (statement : AstNode) (hroot : arena.nodes[root]? = some statement)
    (hunshared : Unshared arena (matchesOf statement) (mutationsOf statement))
    (hrun : optimizeStatement fuel root arena = .ok ((), arena')) (hsize : arena'.len ≤ NodeHandle.null)
    (bag : Multiset (Row V)) : I.rows arena' root bag = I.rows arena root bag := by
  obtain ⟨n, arena₀, hget, hbody⟩ := bind_ok.mp hrun
  obtain ⟨hn, rfl⟩ := getNode_ok hget
  cases hroot.symm.trans hn
  cases statement with
  | queryStatement mode loadCsv unwinds clauses linearClauses withClauses mutations returned =>
    obtain ⟨u, arena₁, hmatches, hmutations⟩ := bind_ok.mp hbody
    obtain ⟨reads, hpreserves⟩ := optimizeMatches_preserves (I := I) hunshared.nodup hunshared.layout
      (List.nil_append clauses).symm hmatches
    have hclosed : Closed arena₁ (mutationReads arena₀ mutations) :=
      (closed_reached _).congr (hpreserves.unseen.view.mono Set.subset_union_right)
    have hrewrote := optimizeMutations_rewrote hclosed
      (fun m hm => subset_reached _ ⟨m, hm, rfl⟩) hmutations hsize
    obtain ⟨n₁, hn₁, hmatches₁⟩ := hpreserves.unseen.statement root _ hroot
    obtain ⟨n', hn', hmatches'⟩ := hrewrote.statement root n₁ hn₁
    unfold rows
    simp only [hroot, hn']
    rw [hmatches', hmatches₁, ← hpreserves.rows bag]
    exact congrArg (fun p : Lib.Pipeline (Row V) => p.run bag) (rows_of_rewrote hunshared hpreserves hrewrote)
  | _ =>
    cases hbody
    rfl

/-- At 8 `MATCH (x) OPTIONAL MATCH (x) WHERE x.p = 1` with one pattern for both clauses, at 11
`MATCH (x) MATCH (y) WHERE x.p = 1`. -/
def scanQuery : QueryAstArena where
  nodes := [
    .nodePattern (some "x") none [], .identifier "x", .propertyAccess 1 "p", .literal (.int64 1),
    .binaryExpression 2 .eq 3, .whereClause 4, .matchClause false [0] none, .matchClause true [0] (some 5),
    .queryStatement .normal none [] [6, 7] [] [] [] none,
    .nodePattern (some "y") none [], .matchClause false [9] (some 5),
    .queryStatement .normal none [] [6, 10] [] [] [] none]

def scanReads : List Site :=
  [(.skeleton, 0), (.skeleton, 9), (.expression, 5), (.expression, 4), (.expression, 2), (.expression, 3),
    (.expression, 1)]

variable {m k : NodeHandle}

lemma patternOf_single {path : NodeHandle} {optional condition var labels predicates}
    (hm : a.nodes[m]? = some (.matchClause optional [path] condition))
    (hpath : a.nodes[path]? = some (.nodePattern var labels predicates)) : PatternOf a m k ↔ k = path := by
  have hnodes : patternNodes a path = {path} := by
    rw [patternNodes_leaf hpath (by simp), Set.union_empty]
  constructor
  · rintro ⟨_, _, _, hm', path', hpath', hk, -⟩
    cases hm.symm.trans hm'
    rw [List.mem_singleton] at hpath'
    rw [hpath', hnodes] at hk
    exact hk
  · rintro rfl
    exact ⟨_, _, _, hm, k, List.mem_singleton_self k, by simp [hnodes], _, _, _, hpath⟩

lemma closed_scanReads : Closed scanQuery {q | q ∈ scanReads} := by
  have hall : ∀ q ∈ scanReads, ∀ n ∈ scanQuery.nodes[q.2]?, ∀ q' ∈ q.1.children n, q' ∈ scanReads := by decide
  exact hall

lemma mem_clauses (hm : m ∈ [6, 10]) : m = 6 ∨ m = 10 := by simpa using hm

lemma scanQuery_patternOf (hm : m ∈ [6, 10]) (hk : PatternOf scanQuery m k) : m = 6 ∧ k = 0 ∨ m = 10 ∧ k = 9 := by
  rcases mem_clauses hm with rfl | rfl
  · exact .inl ⟨rfl, (patternOf_single rfl rfl).mp hk⟩
  · exact .inr ⟨rfl, (patternOf_single rfl rfl).mp hk⟩

lemma scanQuery_reads {q : Site} (hq : q ∈ matchReads scanQuery [6, 10] ∪ mutationReads scanQuery []) :
    q ∈ scanReads := by
  rcases hq with hq | ⟨root, ⟨u, hu, -⟩, -⟩
  · refine reached_subset closed_scanReads ?_ hq
    rintro q (⟨hm, hn, hpath⟩ | ⟨hm, hn⟩ | ⟨hm, k, hk, _, _, _, hn, hpred⟩)
    · rcases mem_clauses hm with rfl | rfl <;> cases hn <;> cases List.mem_singleton.mp hpath <;> simp [scanReads]
    · rcases mem_clauses hm with rfl | rfl <;> cases hn
      simp [scanReads]
    · rcases scanQuery_patternOf hm hk with ⟨-, rfl⟩ | ⟨-, rfl⟩ <;> cases hn <;> cases hpred
  · cases hu

lemma unshared_scanQuery : Unshared scanQuery [6, 10] [] where
  nodup := by decide
  clause m hm := by
    rcases mem_clauses hm with rfl | rfl
    · exact ⟨_, _, _, rfl⟩
    · exact ⟨_, _, _, rfl⟩
  valid q hq := by
    have hvalid : ∀ q ∈ scanReads, q.2 < scanQuery.len := by decide
    exact hvalid q (scanQuery_reads hq)
  clauseUnread m hm p hq := by
    have hunread : ∀ q ∈ scanReads, q.2 ≠ 6 ∧ q.2 ≠ 10 := by decide
    have := hunread _ (scanQuery_reads hq)
    rcases mem_clauses hm with rfl | rfl
    · exact this.1 rfl
    · exact this.2 rfl
  patternUnread m hm k hk hq := by
    have hunread : ∀ q ∈ scanReads, q.1 ≠ .whole := by decide
    exact hunread _ (scanQuery_reads hq) rfl
  apart m hm m' hm' k hk hk' := by
    rcases scanQuery_patternOf hm hk with ⟨rfl, rfl⟩ | ⟨rfl, rfl⟩ <;>
      rcases scanQuery_patternOf hm' hk' with ⟨rfl, h⟩ | ⟨rfl, h⟩ <;> first | rfl | cases h
  mutation k hk := by
    obtain ⟨root, ⟨u, hu, -⟩, -⟩ := hk
    cases hu

def scanEnvironment : Environment where
  var _ := .null
  param _ := .null
  property _ _ := some (.int 2)
  call _ _ := none
  operate _ _ _ := none
  composite _ := none

theorem optimizeStatement_keeps_rows_scanQuery : ∃ arena',
    optimizeStatement 9 11 scanQuery = .ok ((), arena') ∧
    arena'.nodes[0]? = some (.nodePattern (some "x") none [4]) ∧
    arena'.nodes[10]? = some (.matchClause false [9] none) ∧
    ∀ bag, (scanEnvironment.nodeScan {0}).rows arena' 11 bag = (scanEnvironment.nodeScan {0}).rows scanQuery 11 bag := by
  refine ⟨_, rfl, rfl, rfl, fun bag => ?_⟩
  exact optimizeStatement_keeps_rows (scanEnvironment.nodeScan {0}) scanQuery _ 9 11 _ rfl unshared_scanQuery rfl
    (by decide) bag

/-- After pushdown at 8: the first clause has the condition of the optional one. -/
def scanQueryPushed : QueryAstArena where
  nodes := (scanQuery.nodes.set 0 (.nodePattern (some "x") none [4])).set 7 (.matchClause true [0] none)

def emptyRow : Row (Option Value) := fun _ => none

def scannedRow : Row (Option Value) := emptyRow.set "x" (some (.entity 0))

lemma scanQueryPushed_not_holds : ¬ (scanEnvironment.nodeScan {0}).Holds scanQueryPushed scannedRow 4 := by
  rintro ⟨v, hv, htrue⟩
  cases hv with
  | binary hn hl hr =>
    cases hn
    cases hl with
    | property hn hx =>
      cases hn
      cases hr with
      | literal hn =>
        cases hn
        cases hx with
        | identifier hn =>
          cases hn
          cases htrue
        | block hn hblock =>
          cases hn
          cases hblock
        | _ hn => cases hn
      | block hn hblock =>
        cases hn
        cases hblock
      | _ hn => cases hn
    | block hn hblock =>
      cases hn
      cases hblock
    | _ hn => cases hn
  | block hn hblock =>
    cases hn
    cases hblock
  | _ hn => cases hn

lemma scanQuery_row : scannedRow ∈ (scanEnvironment.nodeScan {0}).rows scanQuery 8 {emptyRow} := by
  set I := scanEnvironment.nodeScan {0}
  change scannedRow ∈ run (I.pipeline scanQuery [6, 7] (I.whereOf scanQuery)) {emptyRow}
  simp only [pipeline_cons, run, singleton_bind]
  refine Multiset.mem_bind.mpr ⟨scannedRow, ?_, ?_⟩
  · refine (Lib.Stage.mem_run rfl).mpr ⟨mem_singleton_self scannedRow, fun pred hpred => ?_, trivial⟩
    obtain ⟨k, hk, _, _, _, hn, hpred⟩ := hpred
    obtain rfl := (patternOf_single rfl rfl).mp hk
    cases hn
    cases hpred
  · -- kept or not, the row comes back
    rw [Lib.Stage.run_of_only rfl rfl rfl]
    exact mem_singleton_self scannedRow

lemma scanQueryPushed_rows : (scanEnvironment.nodeScan {0}).rows scanQueryPushed 8 {emptyRow} = 0 := by
  set I := scanEnvironment.nodeScan {0}
  change run (I.pipeline scanQueryPushed [6, 7] (I.whereOf scanQueryPushed)) {emptyRow} = 0
  rw [pipeline_cons, run, singleton_bind]
  have hnone : (I.stage scanQueryPushed 6).run
      (fun r => I.patternsOf scanQueryPushed 6 r ∧ I.whereOf scanQueryPushed 6 r) emptyRow = 0 := by
    refine eq_zero_of_forall_notMem fun r hr => ?_
    obtain ⟨hr, hkeep⟩ := (Lib.Stage.mem_run rfl).mp hr
    obtain rfl : r = scannedRow := Multiset.mem_singleton.mp hr
    have hpred : PatternPredicate scanQueryPushed 6 4 :=
      ⟨0, (patternOf_single rfl rfl).mpr rfl, _, _, _, rfl, List.mem_singleton_self 4⟩
    exact scanQueryPushed_not_holds (hkeep.1 4 hpred)
  rw [hnone, run_zero]

theorem shared_pattern_loses_row :
    optimizeStatement 9 8 scanQuery = .ok ((), scanQueryPushed) ∧
    (scanEnvironment.nodeScan {0}).rows scanQueryPushed 8 {emptyRow} ≠
      (scanEnvironment.nodeScan {0}).rows scanQuery 8 {emptyRow} := by
  refine ⟨rfl, fun h => ?_⟩
  have hrow := scanQuery_row
  rw [← h, scanQueryPushed_rows] at hrow
  cases hrow

end Voyager
