import Voyager.Optimizer.Hoisting

/-! MATCH clauses whose patterns nothing else reads, and the writes that keep them so. -/

namespace Voyager

open List

open AstOptimizer (patternNodes Pushed matchesOf)

structure Layout (arena : QueryAstArena) (clauses : List NodeHandle) (reads others : Set Site) : Prop where
  closed : Closed arena reads
  valid : ∀ q ∈ reads ∪ others, q.2 < arena.len
  clause : ∀ m ∈ clauses, ∃ optional paths condition,
    arena.nodes[m]? = some (.matchClause optional paths condition) ∧
      (∀ path ∈ paths, (.skeleton, path) ∈ reads) ∧ ∀ h ∈ condition, (.expression, h) ∈ reads
  predicate : ∀ m ∈ clauses, ∀ h, PatternPredicate arena m h → (.expression, h) ∈ reads
  clauseUnread : ∀ m ∈ clauses, ∀ p, (p, m) ∉ reads ∪ others
  patternUnread : ∀ m ∈ clauses, ∀ k, PatternOf arena m k → (.whole, k) ∉ reads ∪ others
  apart : ∀ m ∈ clauses, ∀ m' ∈ clauses, ∀ k, PatternOf arena m k → PatternOf arena m' k → m = m'

def SameMatches (a b : QueryAstArena) : Prop :=
  ∀ (k : NodeHandle) (n : AstNode), a.nodes[k]? = some n → ∃ n', b.nodes[k]? = some n' ∧ matchesOf n' = matchesOf n

structure Unseen (clauses : List NodeHandle) (sites : Set Site) (a b : QueryAstArena) : Prop where
  view : SameView sites a b
  len : a.len ≤ b.len
  clause : ∀ m ∈ clauses, ∀ optional paths condition, a.nodes[m]? = some (.matchClause optional paths condition) →
    ∃ condition', b.nodes[m]? = some (.matchClause optional paths condition')
  statement : SameMatches a b

section

variable {a b c : QueryAstArena} {clauses : List NodeHandle} {reads others sites : Set Site} {m k : NodeHandle}

lemma SameMatches.trans (hab : SameMatches a b) (hbc : SameMatches b c) : SameMatches a c := by
  intro k n hn
  obtain ⟨n', hn', hmatches⟩ := hab k n hn
  obtain ⟨n'', hn'', hmatches'⟩ := hbc k n' hn'
  exact ⟨n'', hn'', hmatches'.trans hmatches⟩

variable {n : AstNode}

lemma sameMatches_set {n' : AstNode} (hn : a.nodes[k]? = some n) (hmatches : matchesOf n' = matchesOf n) :
    SameMatches a ⟨a.nodes.set k n'⟩ := by
  intro i m hm
  by_cases h : k = i
  · subst h
    cases hn.symm.trans hm
    exact ⟨n', getElem?_set_self (List.getElem?_eq_some_iff.mp hn).1, hmatches⟩
  · exact ⟨m, (getElem?_set_ne h).trans hm, rfl⟩

lemma Unseen.refl (a : QueryAstArena) : Unseen clauses sites a a :=
  ⟨.refl _ _, le_rfl, fun _ _ _ _ condition hn => ⟨condition, hn⟩, fun _ n hn => ⟨n, hn, rfl⟩⟩

lemma Unseen.mono (h : Unseen clauses sites a b) {fewer : Set Site} (hsub : fewer ⊆ sites) :
    Unseen clauses fewer a b := ⟨h.view.mono hsub, h.len, h.clause, h.statement⟩

lemma Unseen.trans (hab : Unseen clauses sites a b) (hbc : Unseen clauses sites b c) : Unseen clauses sites a c where
  view := hab.view.trans hbc.view
  len := hab.len.trans hbc.len
  clause m hm optional paths condition hn := by
    obtain ⟨condition', hn'⟩ := hab.clause m hm optional paths condition hn
    exact hbc.clause m hm optional paths condition' hn'
  statement := hab.statement.trans hbc.statement

namespace Layout

variable (hl : Layout a clauses reads others)

include hl

lemma patternOf_of_unseen (hb : Unseen clauses (reads ∪ others) a b) (hm : m ∈ clauses) :
    PatternOf b m k ↔ PatternOf a m k := by
  have hview : SameView reads a b := hb.view.mono Set.subset_union_left
  obtain ⟨optional, paths, condition, hn, hpaths, -⟩ := hl.clause m hm
  obtain ⟨condition', hn'⟩ := hb.clause m hm optional paths condition hn
  constructor
  · rintro ⟨_, _, _, hn'', path, hpath, hk, var, labels, predicates, hnode⟩
    cases hn'.symm.trans hn''
    rw [← patternNodes_congr hl.closed hview (hpaths path hpath)] at hk
    obtain ⟨-, hsite⟩ := mem_patternNodes_congr hl.closed hview hk (hpaths path hpath)
    obtain ⟨n', hnode', hsame⟩ := hview.symm.node hsite hnode
    obtain ⟨predicates', rfl⟩ := Position.view_skeleton_nodePattern hsame
    exact ⟨optional, paths, condition, hn, path, hpath, hk, var, labels, predicates', hnode'⟩
  · rintro ⟨_, _, _, hn'', path, hpath, hk, var, labels, predicates, hnode⟩
    cases hn.symm.trans hn''
    obtain ⟨hk', hsite⟩ := mem_patternNodes_congr hl.closed hview hk (hpaths path hpath)
    obtain ⟨n', hnode', hsame⟩ := hview.node hsite hnode
    obtain ⟨predicates', rfl⟩ := Position.view_skeleton_nodePattern hsame
    exact ⟨optional, paths, condition', hn', path, hpath, hk', var, labels, predicates', hnode'⟩

lemma of_unseen (hb : Unseen clauses (reads ∪ others) a b) (hcondition : ∀ m ∈ clauses, ∀ optional paths condition,
      b.nodes[m]? = some (.matchClause optional paths condition) → ∀ h ∈ condition, (.expression, h) ∈ reads)
    (hpredicate : ∀ m ∈ clauses, ∀ h, PatternPredicate b m h → (.expression, h) ∈ reads) :
    Layout b clauses reads others where
  closed := hl.closed.congr (hb.view.mono Set.subset_union_left)
  valid q hq := (hl.valid q hq).trans_le hb.len
  clause m hm := by
    obtain ⟨optional, paths, condition, hn, hpaths, -⟩ := hl.clause m hm
    obtain ⟨condition', hn'⟩ := hb.clause m hm optional paths condition hn
    exact ⟨optional, paths, condition', hn', hpaths, hcondition m hm optional paths condition' hn'⟩
  predicate := hpredicate
  clauseUnread := hl.clauseUnread
  patternUnread m hm k hk := hl.patternUnread m hm k ((hl.patternOf_of_unseen hb hm).mp hk)
  apart m hm m' hm' k hk hk' :=
    hl.apart m hm m' hm' k ((hl.patternOf_of_unseen hb hm).mp hk) ((hl.patternOf_of_unseen hb hm').mp hk')

variable {h : NodeHandle}

lemma patternPredicate_of_unseen (hb : Unseen clauses (reads ∪ others) a b) (hm : m ∈ clauses)
    (hsame : ∀ k, PatternOf a m k → b.nodes[k]? = a.nodes[k]?) :
    PatternPredicate b m h ↔ PatternPredicate a m h := by
  constructor
  · rintro ⟨k, hk, hpredicate⟩
    rw [hl.patternOf_of_unseen hb hm] at hk
    exact ⟨k, hk, hsame k hk ▸ hpredicate⟩
  · rintro ⟨k, hk, hpredicate⟩
    exact ⟨k, (hl.patternOf_of_unseen hb hm).mpr hk, (hsame k hk).symm ▸ hpredicate⟩

lemma clause_lt (hm : m ∈ clauses) : m < a.len := by
  obtain ⟨optional, paths, condition, hn, -⟩ := hl.clause m hm
  exact (List.getElem?_eq_some_iff.mp hn).1

lemma condition_mem (hm : m ∈ clauses) {optional : Bool} {paths : List NodeHandle} {condition : Option NodeHandle}
    (hn : a.nodes[m]? = some (.matchClause optional paths condition)) :
    ∀ h ∈ condition, (.expression, h) ∈ reads := by
  obtain ⟨_, _, _, hn', -, hcondition⟩ := hl.clause m hm
  cases hn.symm.trans hn'
  exact hcondition

lemma extend (hn : a.nodes[k]? = some n) (hchildren : ∀ q ∈ Position.expression.children n, q ∈ reads)
    (hk : k ∉ clauses) : Layout a clauses (insert (.expression, k) reads) others where
  closed := by
    rintro q (rfl | hq) n' hn' q' hq'
    · cases hn.symm.trans hn'
      exact .inr (hchildren q' hq')
    · exact .inr (hl.closed q hq n' hn' q' hq')
  valid := by
    rintro q ((rfl | hq) | hq)
    · exact (List.getElem?_eq_some_iff.mp hn).1
    · exact hl.valid q (.inl hq)
    · exact hl.valid q (.inr hq)
  clause m hm := by
    obtain ⟨optional, paths, condition, hn, hpaths, hcondition⟩ := hl.clause m hm
    exact ⟨optional, paths, condition, hn, fun path hpath => .inr (hpaths path hpath),
      fun h hh => .inr (hcondition h hh)⟩
  predicate m hm h hh := .inr (hl.predicate m hm h hh)
  clauseUnread := by
    rintro m hm p ((hq | hq) | hq)
    · cases hq
      exact hk hm
    · exact hl.clauseUnread m hm p (.inl hq)
    · exact hl.clauseUnread m hm p (.inr hq)
  patternUnread := by
    rintro m hm k' hk' ((hq | hq) | hq)
    · cases hq
    · exact hl.patternUnread m hm k' hk' (.inl hq)
    · exact hl.patternUnread m hm k' hk' (.inr hq)
  apart := hl.apart

lemma of_same (hb : Unseen clauses (reads ∪ others) a b) (hclause : ∀ m ∈ clauses, b.nodes[m]? = a.nodes[m]?)
    (hpattern : ∀ m ∈ clauses, ∀ k, PatternOf a m k → b.nodes[k]? = a.nodes[k]?) :
    Layout b clauses reads others := by
  refine hl.of_unseen hb (fun m hm optional paths condition hn => ?_) fun m hm h hh => ?_
  · rw [hclause m hm] at hn
    exact hl.condition_mem hm hn
  · rw [hl.patternPredicate_of_unseen hb hm (hpattern m hm)] at hh
    exact hl.predicate m hm h hh

section

variable (hlen : a.len ≤ b.len) (hsame : ∀ k < a.len, b.nodes[k]? = a.nodes[k]?)

include hlen hsame

lemma unseen_of_le : Unseen clauses (reads ∪ others) a b where
  view q hq := by rw [hsame q.2 (hl.valid q hq)]
  len := hlen
  clause m hm optional paths condition hn := ⟨condition, by rw [hsame m (hl.clause_lt hm), hn]⟩
  statement k n hn := ⟨n, by rw [hsame k (List.getElem?_eq_some_iff.mp hn).1, hn], rfl⟩

lemma of_le : Layout b clauses reads others := by
  refine hl.of_same (hl.unseen_of_le hlen hsame) (fun m hm => hsame m (hl.clause_lt hm)) ?_
  rintro m hm k ⟨_, _, _, _, _, _, _, var, labels, predicates, hn⟩
  exact hsame k (List.getElem?_eq_some_iff.mp hn).1

end

lemma alloc (hn : ∀ q ∈ Position.expression.children n, q ∈ reads) :
    Layout (a.alloc n).2 clauses (insert (.expression, a.len) reads) others := by
  have hsame : ∀ k < a.len, (a.alloc n).2.nodes[k]? = a.nodes[k]? := fun k hk => getElem?_append_left hk
  have hlen : a.len ≤ (a.alloc n).2.len := by simp [QueryAstArena.len, QueryAstArena.alloc]
  exact (hl.of_le hlen hsame).extend (a.alloc_node n) hn fun hm => (hl.clause_lt hm).false

variable {pred : NodeHandle}

variable {x : String}

lemma unseen_push (hm : m ∈ clauses) (hk : PatternOf a m k) (hpush : Pushed x pred k a b) :
    Unseen clauses (reads ∪ others) a b := by
  obtain ⟨labels, predicates, hn, rfl⟩ := hpush.node
  refine ⟨?_, by simp [QueryAstArena.len], fun m' _ optional paths condition hn' => ⟨condition, ?_⟩,
    sameMatches_set hn rfl⟩
  · rintro ⟨p, k'⟩ hq
    by_cases h : k = k'
    · subst h
      have hlt := (List.getElem?_eq_some_iff.mp hn).1
      simp only [hn, getElem?_set_self hlt]
      cases p with
      | whole => exact absurd hq (hl.patternUnread m hm k hk)
      | expression | skeleton => rfl
    · simp only [getElem?_set_ne h]
  · have hne : k ≠ m' := by
      rintro rfl
      cases hn.symm.trans hn'
    rw [getElem?_set_ne hne, hn']

lemma patternPredicate_push (hm : m ∈ clauses) (hk : PatternOf a m k) (hpush : Pushed x pred k a b)
    {m' : NodeHandle} (hm' : m' ∈ clauses) :
    PatternPredicate b m' h ↔ PatternPredicate a m' h ∨ m' = m ∧ h = pred := by
  have hpattern : ∀ k', PatternOf b m' k' ↔ PatternOf a m' k' :=
    fun k' => hl.patternOf_of_unseen (hl.unseen_push hm hk hpush) hm'
  obtain ⟨labels, predicates, hn, rfl⟩ := hpush.node
  have hself := getElem?_set_self (a := AstNode.nodePattern (some x) labels (predicates ++ [pred]))
    (List.getElem?_eq_some_iff.mp hn).1
  constructor
  · rintro ⟨k', hk', var, labels', predicates', hn', hh⟩
    rw [hpattern] at hk'
    by_cases hkk : k = k'
    · subst hkk
      cases hself.symm.trans hn'
      rcases List.mem_append.mp hh with hh | hh
      · exact .inl ⟨k, hk', _, _, _, hn, hh⟩
      · exact .inr ⟨hl.apart m' hm' m hm k hk' hk, List.mem_singleton.mp hh⟩
    · rw [getElem?_set_ne hkk] at hn'
      exact .inl ⟨k', hk', _, _, _, hn', hh⟩
  · rintro (⟨k', hk', var, labels', predicates', hn', hh⟩ | ⟨rfl, rfl⟩)
    · refine ⟨k', (hpattern k').mpr hk', ?_⟩
      by_cases hkk : k = k'
      · subst hkk
        cases hn.symm.trans hn'
        exact ⟨_, _, _, hself, mem_append_left _ hh⟩
      · exact ⟨_, _, _, (getElem?_set_ne hkk).trans hn', hh⟩
    · exact ⟨k, (hpattern k).mpr hk, _, _, _, hself, by simp⟩

lemma node_push (hpush : Pushed x pred k a b) (hm : m ∈ clauses) : b.nodes[m]? = a.nodes[m]? := by
  obtain ⟨labels, predicates, hn, rfl⟩ := hpush.node
  obtain ⟨optional, paths, condition, hn', -⟩ := hl.clause m hm
  have hne : k ≠ m := by
    rintro rfl
    cases hn.symm.trans hn'
  exact getElem?_set_ne hne

lemma push (hm : m ∈ clauses) (hk : PatternOf a m k) (hpush : Pushed x pred k a b)
    (hpred : (.expression, pred) ∈ reads) : Layout b clauses reads others := by
  refine hl.of_unseen (hl.unseen_push hm hk hpush) (fun m' hm' optional paths condition hn => ?_)
    fun m' hm' h hh => ?_
  · rw [hl.node_push hpush hm'] at hn
    exact hl.condition_mem hm' hn
  · rw [hl.patternPredicate_push hm hk hpush hm'] at hh
    obtain hh | ⟨-, rfl⟩ := hh
    · exact hl.predicate m' hm' h hh
    · exact hpred

section

variable {optional : Bool} {paths : List NodeHandle} {condition condition' : Option NodeHandle}
  (hm : m ∈ clauses) (hn : a.nodes[m]? = some (.matchClause optional paths condition))
  (hb : b = ⟨a.nodes.set m (.matchClause optional paths condition')⟩)

include hm hn hb

lemma unseen_setWhere : Unseen clauses (reads ∪ others) a b := by
  subst hb
  have hlt := (List.getElem?_eq_some_iff.mp hn).1
  refine ⟨?_, by simp [QueryAstArena.len], fun m' _ optional' paths' condition'' hn' => ?_,
    sameMatches_set hn rfl⟩
  · rintro ⟨p, k⟩ hq
    have hne : m ≠ k := by
      rintro rfl
      exact hl.clauseUnread m hm p hq
    simp only [getElem?_set_ne hne]
  · by_cases h : m = m'
    · subst h
      cases hn.symm.trans hn'
      exact ⟨condition', getElem?_set_self hlt⟩
    · exact ⟨condition'', (getElem?_set_ne h).trans hn'⟩

lemma patternPredicate_setWhere {m' : NodeHandle} (hm' : m' ∈ clauses) :
    PatternPredicate b m' h ↔ PatternPredicate a m' h := by
  refine hl.patternPredicate_of_unseen (hl.unseen_setWhere hm hn hb) hm' ?_
  rintro k ⟨_, _, _, _, _, _, _, var, labels, predicates, hnode⟩
  have hne : m ≠ k := by
    rintro rfl
    cases hn.symm.trans hnode
  subst hb
  exact getElem?_set_ne hne

lemma setWhere (hcondition : ∀ h ∈ condition', (.expression, h) ∈ reads) : Layout b clauses reads others := by
  refine hl.of_unseen (hl.unseen_setWhere hm hn hb) (fun m' hm' optional' paths' condition'' hn' => ?_)
    fun m' hm' h hh => ?_
  · subst hb
    by_cases h : m = m'
    · subst h
      cases (getElem?_set_self (List.getElem?_eq_some_iff.mp hn).1).symm.trans hn'
      exact hcondition
    · rw [getElem?_set_ne h] at hn'
      exact hl.condition_mem hm' hn'
  · rw [hl.patternPredicate_setWhere hm hn hb hm'] at hh
    exact hl.predicate m' hm' h hh

end

end Layout

end

end Voyager
