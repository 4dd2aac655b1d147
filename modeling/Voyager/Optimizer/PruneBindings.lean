import Voyager.Optimizer.UsedVariables

/-! Which variables pruning erases, and when it erases only names that occur once. -/

namespace Voyager.AstOptimizer

open List Option Relation.ReflTransGen

inductive PatternStep (arena : QueryAstArena) : NodeHandle → NodeHandle → Prop
  | start {h s : NodeHandle} {v : Option String} {m : PathMode} {es : List NodeHandle} :
      arena.nodes[h]? = some (.pathChain v m s es) → PatternStep arena h s
  | target {h s e t : NodeHandle} {v : Option String} {m : PathMode} {es : List NodeHandle} {n : AstNode} :
      arena.nodes[h]? = some (.pathChain v m s es) → e ∈ es → arena.nodes[e]? = some n → t ∈ edgeTarget n →
      PatternStep arena h t

def patternNodes (arena : QueryAstArena) (h : NodeHandle) : Set NodeHandle :=
  {t | Relation.ReflTransGen (PatternStep arena) h t}

structure PrunedAt (usedVars : List String) (S : Set NodeHandle) (s t : QueryAstArena) : Prop where
  inside : ∀ i ∈ S, t.nodes[i]? = (s.nodes[i]?).map (pruneNode usedVars)
  outside : ∀ i ∉ S, t.nodes[i]? = s.nodes[i]?

variable {arena' : QueryAstArena} {fuel : ℕ}

section

variable {usedVars : List String}

variable (n : AstNode)

lemma pruneNode_idem : pruneNode usedVars (pruneNode usedVars n) = pruneNode usedVars n := by
  cases n <;> simp [pruneNode, keepUsed, Option.filter_filter]

lemma edgeTarget_pruneNode : edgeTarget (pruneNode usedVars n) = edgeTarget n := by
  cases n <;> rfl

namespace PrunedAt

variable {S T : Set NodeHandle} {s t r : QueryAstArena}

lemma refl (s : QueryAstArena) : PrunedAt usedVars ∅ s s := ⟨fun _ h => h.elim, fun _ _ => rfl⟩

lemma trans (hs : PrunedAt usedVars S s t) (ht : PrunedAt usedVars T t r) : PrunedAt usedVars (S ∪ T) s r where
  inside i hi := by
    by_cases hT : i ∈ T
    · rw [ht.inside i hT]
      by_cases hS : i ∈ S
      · rw [hs.inside i hS, Option.map_map]
        congr 1
        funext n
        exact pruneNode_idem n
      · rw [hs.outside i hS]
    · rw [ht.outside i hT, hs.inside i (hi.resolve_right hT)]
  outside i hi := by
    rw [ht.outside i fun h => hi (.inr h), hs.outside i fun h => hi (.inl h)]

lemma node_eq (h : PrunedAt usedVars S s t) {i : NodeHandle} {n : AstNode} (hn : t.nodes[i]? = some n) :
    ∃ m, s.nodes[i]? = some m ∧ (n = m ∨ n = pruneNode usedVars m) := by
  by_cases hi : i ∈ S
  · rw [h.inside i hi, map_eq_some_iff] at hn
    obtain ⟨m, hm, rfl⟩ := hn
    exact ⟨m, hm, .inr rfl⟩
  · exact ⟨n, (h.outside i hi).symm.trans hn, .inl rfl⟩

end PrunedAt

def Prunes {α : Type} (usedVars : List String) (origin : QueryAstArena) (m : OptM α) (S : Set NodeHandle) : Prop :=
  ∀ s a t, (∃ T, PrunedAt usedVars T origin s) → m s = .ok (a, t) → PrunedAt usedVars S s t

namespace Prunes

variable {α β : Type} {origin : QueryAstArena} {m : OptM α} {f : α → OptM β} {S T : Set NodeHandle}

lemma pure (a : α) : Prunes usedVars origin (Pure.pure a) ∅ := by
  intro s b t _ h
  cases h
  exact PrunedAt.refl s

lemma bind (hm : Prunes usedVars origin m S) (hf : ∀ a, Prunes usedVars origin (f a) T) :
    Prunes usedVars origin (m >>= f) (S ∪ T) := by
  rintro s b r ⟨U, hU⟩ h
  obtain ⟨a, t, ha, hb⟩ := Lib.bind_ok.mp h
  have hst := hm s a t ⟨U, hU⟩ ha
  exact hst.trans (hf a t b r ⟨_, hU.trans hst⟩ hb)

lemma forM {ι : Type} {body : ι → OptM PUnit} {P : ι → Set NodeHandle}
    (hbody : ∀ i, Prunes usedVars origin (body i) (P i)) (is : List ι) :
    Prunes usedVars origin (is.forM body) {t | ∃ i ∈ is, t ∈ P i} := by
  induction is with
  | nil => simpa using Prunes.pure _
  | cons i is ih =>
    have h := (hbody i).bind fun _ => ih
    have hset : P i ∪ {t | ∃ j ∈ is, t ∈ P j} = {t | ∃ j ∈ i :: is, t ∈ P j} := by
      ext t
      simp
    rwa [hset] at h

lemma getNode_bind {h : NodeHandle} {f : AstNode → OptM β}
    (hf : ∀ m, origin.nodes[h]? = some m → ∀ n, n = m ∨ n = pruneNode usedVars m →
      Prunes usedVars origin (f n) S) : Prunes usedVars origin (getNode h >>= f) S := by
  rintro s b r ⟨U, hU⟩ hok
  obtain ⟨n, t, hget, hb⟩ := Lib.bind_ok.mp hok
  obtain ⟨hn, rfl⟩ := getNode_ok hget
  obtain ⟨m, hm, hnm⟩ := hU.node_eq hn
  exact hf m hm n hnm _ b r ⟨U, hU⟩ hb

lemma modifyNode (h : NodeHandle) : Prunes usedVars origin (modifyNode h (pruneNode usedVars)) {h} := by
  intro s a t _ hok
  obtain ⟨n, hn, rfl⟩ := modifyNode_ok hok
  have hlt : h < s.nodes.length := (List.getElem?_eq_some_iff.mp hn).1
  refine ⟨?_, fun i hi => List.getElem?_set_ne (Ne.symm hi)⟩
  rintro i rfl
  rw [hn]
  exact getElem?_set_self hlt

end Prunes

variable {arena : QueryAstArena} {h : NodeHandle}

def edgeNodes (arena : QueryAstArena) (e : NodeHandle) : Set NodeHandle :=
  {t | ∃ n, arena.nodes[e]? = some n ∧ ∃ g ∈ edgeTarget n, t ∈ patternNodes arena g}

lemma patternNodes_chain {v : Option String} {m : PathMode} {s : NodeHandle} {es : List NodeHandle}
    (hn : arena.nodes[h]? = some (.pathChain v m s es)) :
    patternNodes arena h = {h} ∪ (patternNodes arena s ∪ {t | ∃ e ∈ es, t ∈ edgeNodes arena e}) := by
  ext t
  constructor
  · intro ht
    rcases cases_head ht with rfl | ⟨g, hg, ht⟩
    · exact .inl rfl
    · right
      cases hg with
      | start hn' =>
        cases hn.symm.trans hn'
        exact .inl ht
      | target hn' he hen hgt =>
        cases hn.symm.trans hn'
        exact .inr ⟨_, he, _, hen, _, hgt, ht⟩
  · rintro (rfl | ht | ⟨e, he, n, hen, g, hg, ht⟩)
    · exact refl
    · exact head (.start hn) ht
    · exact head (.target hn he hen hg) ht

lemma patternNodes_leaf {n : AstNode} (hn : arena.nodes[h]? = some n)
    (hleaf : ∀ v m s es, n ≠ .pathChain v m s es) : patternNodes arena h = {h} ∪ ∅ := by
  ext t
  rw [Set.union_empty]
  constructor
  · intro ht
    rcases cases_head ht with rfl | ⟨g, hg, -⟩
    · rfl
    · cases hg with
      | start hn' | target hn' => exact absurd (Option.some.inj (hn.symm.trans hn')) (hleaf _ _ _ _)
  · rintro rfl
    exact refl

lemma edge_prunes (ih : ∀ g, Prunes usedVars arena (prunePathVariables usedVars fuel g) (patternNodes arena g))
    (e : NodeHandle) :
    Prunes usedVars arena
      (do let edgeNode ← getNode e; (edgeTarget edgeNode).forM (prunePathVariables usedVars fuel))
      (edgeNodes arena e) := by
  refine Prunes.getNode_bind fun m hm n hnm => ?_
  have htarget : edgeTarget n = edgeTarget m := by
    rcases hnm with rfl | rfl
    · rfl
    · exact edgeTarget_pruneNode m
  have hset : edgeNodes arena e = {t | ∃ g ∈ edgeTarget m, t ∈ patternNodes arena g} := by
    ext t
    simp [edgeNodes, hm]
  rw [hset, htarget]
  exact Prunes.forM ih _

lemma prunePathVariables_prunes (fuel : ℕ) (path : NodeHandle) :
    Prunes usedVars arena (prunePathVariables usedVars fuel path) (patternNodes arena path) := by
  induction fuel generalizing path with
  | zero =>
    intro s a t _ hok
    cases hok
  | succ fuel ih =>
    refine Prunes.getNode_bind fun m hm n hnm => ?_
    cases m with
    | pathChain v mode s es =>
      rw [patternNodes_chain hm]
      refine (Prunes.modifyNode path).bind fun _ => ?_
      -- the chain read here may have lost its variable already, not its nodes
      rcases hnm with rfl | rfl <;> exact (ih s).bind fun _ => Prunes.forM (edge_prunes ih) es
    | _ =>
      rw [patternNodes_leaf hm (by simp)]
      refine (Prunes.modifyNode path).bind fun _ => ?_
      rcases hnm with rfl | rfl <;> exact Prunes.pure _

def matchPatternNodes (arena : QueryAstArena) (root : NodeHandle) : Set NodeHandle :=
  {t | ∃ n, arena.nodes[root]? = some n ∧ ∃ h ∈ matchesOf n, ∃ m, arena.nodes[h]? = some m ∧
    ∃ path ∈ pathsOf m, t ∈ patternNodes arena path}

lemma matchesOf_pruneNode : matchesOf (pruneNode usedVars n) = matchesOf n := by
  cases n <;> rfl

lemma pathsOf_pruneNode : pathsOf (pruneNode usedVars n) = pathsOf n := by
  cases n <;> rfl

lemma match_prunes (fuel : ℕ) (h : NodeHandle) :
    Prunes usedVars arena (do let n ← getNode h; (pathsOf n).forM (prunePathVariables usedVars fuel))
      {t | ∃ m, arena.nodes[h]? = some m ∧ ∃ path ∈ pathsOf m, t ∈ patternNodes arena path} := by
  refine Prunes.getNode_bind fun m hm n hnm => ?_
  have hpaths : pathsOf n = pathsOf m := by
    rcases hnm with rfl | rfl
    · rfl
    · exact pathsOf_pruneNode m
  have hset : {t | ∃ m, arena.nodes[h]? = some m ∧ ∃ path ∈ pathsOf m, t ∈ patternNodes arena path} =
      {t | ∃ path ∈ pathsOf m, t ∈ patternNodes arena path} := by
    ext t
    simp [hm]
  rw [hset, hpaths]
  exact Prunes.forM (prunePathVariables_prunes fuel) _

lemma pruneDeadVariables_ok {root : NodeHandle} (hok : pruneDeadVariables fuel root arena = .ok ((), arena')) :
    ∃ used, collectUsedVariables arena fuel root = .ok used ∧
      PrunedAt used (matchPatternNodes arena root) arena arena' := by
  obtain ⟨_, s, hget, hrest⟩ := Lib.bind_ok.mp hok
  cases hget
  obtain ⟨used, s, hlift, hloop⟩ := Lib.bind_ok.mp hrest
  obtain ⟨hused, rfl⟩ := Lib.lift_ok.mp hlift
  refine ⟨used, hused, ?_⟩
  have hprunes : Prunes used s (do
      let n ← getNode root
      (matchesOf n).forM fun h => do let m ← getNode h; (pathsOf m).forM (prunePathVariables used fuel))
      (matchPatternNodes s root) := by
    refine Prunes.getNode_bind fun m hm n hnm => ?_
    have hmatches : matchesOf n = matchesOf m := by
      rcases hnm with rfl | rfl
      · rfl
      · exact matchesOf_pruneNode m
    have hset : matchPatternNodes s root = {t | ∃ h ∈ matchesOf m, ∃ m, s.nodes[h]? = some m ∧
        ∃ path ∈ pathsOf m, t ∈ patternNodes s path} := by
      ext t
      simp [matchPatternNodes, hm]
    rw [hset, hmatches]
    exact Prunes.forM (match_prunes fuel) _
  exact hprunes s () arena' ⟨∅, PrunedAt.refl s⟩ hloop

end

def boundName : AstNode → Option String
  | .nodePattern var _ _ => var
  | .pathChain pathVariable _ _ _ => pathVariable
  | _ => none

def Erased (arena arena' : QueryAstArena) (h : NodeHandle) (x : String) : Prop :=
  (arena.nodes[h]?).bind boundName = some x ∧ (arena'.nodes[h]?).bind boundName ≠ some x

variable {x : String}

lemma keepUsed_ne_iff {usedVars : List String} :
    keepUsed usedVars (some x) ≠ some x ↔ isGenerated x = true ∧ x ∉ usedVars := by
  simp [keepUsed, isPrunable, filter_some]

lemma erased_iff {arena : QueryAstArena} {root h : NodeHandle}
    (hok : pruneDeadVariables fuel root arena = .ok ((), arena')) :
    Erased arena arena' h x ↔ h ∈ matchPatternNodes arena root ∧ (arena.nodes[h]?).bind boundName = some x ∧
      isGenerated x = true ∧ ¬ Inspected arena .statement root x := by
  obtain ⟨used, hused, hpruned⟩ := pruneDeadVariables_ok hok
  have hx : x ∈ used ↔ Inspected arena .statement root x := collectUsedVariables_finds fuel root used hused x
  rw [← hx]
  by_cases hh : h ∈ matchPatternNodes arena root
  · have hbound : (arena'.nodes[h]?).bind boundName = keepUsed used ((arena.nodes[h]?).bind boundName) := by
      rw [hpruned.inside h hh]
      cases arena.nodes[h]? with
      | none => rfl
      | some n => exact by cases n <;> rfl
    constructor
    · rintro ⟨hb, hne⟩
      rw [hbound, hb, keepUsed_ne_iff] at hne
      exact ⟨hh, hb, hne⟩
    · rintro ⟨-, hb, hne⟩
      refine ⟨hb, ?_⟩
      rw [hbound, hb]
      exact keepUsed_ne_iff.mpr hne
  · constructor
    · rintro ⟨hb, hne⟩
      rw [hpruned.outside h hh] at hne
      exact absurd hb hne
    · rintro ⟨hh', -⟩
      exact absurd hh' hh

theorem erased_occursOnce_iff (arena arena' : QueryAstArena) (fuel : ℕ) (root : NodeHandle)
    (hok : pruneDeadVariables fuel root arena = .ok ((), arena')) :
    (∀ h x, Erased arena arena' h x → OccursOnce arena root x) ↔
    ∀ h ∈ matchPatternNodes arena root, ∀ x, (arena.nodes[h]?).bind boundName = some x → isGenerated x = true →
      Inspected arena .statement root x ∨ OccursOnce arena root x := by
  constructor
  · intro honce h hh x hb hgen
    by_cases hin : Inspected arena .statement root x
    · exact .inl hin
    · exact .inr (honce h x ((erased_iff hok).mpr ⟨hh, hb, hgen, hin⟩))
  · intro hcond h x herased
    obtain ⟨hh, hb, hgen, hin⟩ := (erased_iff hok).mp herased
    exact (hcond h hh x hb hgen).resolve_left hin

/-- At 11 `MATCH (_x)-[]->(a), (_x)-[]->(b) RETURN a`, at 13 the same with the first pattern only. -/
def joinedQuery : QueryAstArena where
  nodes := [
    .nodePattern (some "_x") none [], .nodePattern (some "a") none [],
    .edgePattern none none .outgoing none none [] 1, .pathChain none .none 0 [2],
    .nodePattern (some "_x") none [], .nodePattern (some "b") none [],
    .edgePattern none none .outgoing none none [] 5, .pathChain none .none 4 [6],
    .matchClause false [3, 7] none, .identifier "a", .returnClause false [⟨9, none, none⟩] [] none none,
    .queryStatement .normal none [] [8] [] [] [] (some 10),
    .matchClause false [3] none, .queryStatement .normal none [] [12] [] [] [] (some 10)]

lemma generated_joinedQuery {h : NodeHandle} (hb : (joinedQuery.nodes[h]?).bind boundName = some x)
    (hgen : isGenerated x = true) : x = "_x" := by
  obtain ⟨n, hn, hx⟩ := bind_eq_some_iff.mp hb
  have hmem : x ∈ (joinedQuery.nodes.filterMap boundName).filter isGenerated :=
    mem_filter.mpr ⟨mem_filterMap.mpr ⟨n, mem_of_getElem? hn, hx⟩, hgen⟩
  have hnames : (joinedQuery.nodes.filterMap boundName).filter isGenerated = ["_x", "_x"] := by decide
  rw [hnames] at hmem
  simpa using hmem

lemma occursOnce_joinedQuery : OccursOnce joinedQuery 13 "_x" := by
  intro depth
  match depth with
  | 0 | 1 | 2 | 3 | 4 | 5 => decide
  | n + 6 => exact Nat.le_of_eq rfl

theorem erased_occursOnce_joinedQuery : ∃ arena', pruneDeadVariables 9 13 joinedQuery = .ok ((), arena') ∧
    Erased joinedQuery arena' 0 "_x" ∧ ∀ h x, Erased joinedQuery arena' h x → OccursOnce joinedQuery 13 x := by
  refine ⟨_, rfl, ⟨rfl, by decide⟩, ?_⟩
  refine (erased_occursOnce_iff joinedQuery _ 9 13 rfl).mpr fun h hh x hb hgen => ?_
  rw [generated_joinedQuery hb hgen]
  exact .inr occursOnce_joinedQuery

theorem join_variable_erased : ∃ arena', pruneDeadVariables 9 11 joinedQuery = .ok ((), arena') ∧
    Erased joinedQuery arena' 0 "_x" ∧ Erased joinedQuery arena' 4 "_x" ∧
    ¬ OccursOnce joinedQuery 11 "_x" := by
  refine ⟨_, rfl, ⟨rfl, by decide⟩, ⟨rfl, by decide⟩, fun h => ?_⟩
  exact absurd (h 6) (by decide)

end Voyager.AstOptimizer
