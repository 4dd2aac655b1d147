import Voyager.Optimizer.PushdownRows

namespace Voyager

open AstOptimizer List Position
open Lib (bind_ok)
open Interpretation

variable {V : Type} {I : Interpretation V} {a b : QueryAstArena} {clauses pre post : List NodeHandle}
  {reads others : Set Site} {j : NodeHandle} {fuel : ℕ} {optional : Bool} {paths : List NodeHandle}
  {condition : Option NodeHandle}

variable {m k : NodeHandle}

variable {r : Row V}

lemma isSome_of_mem_candidates {x : String} {labels predicates}
    (hn : a.nodes[m]? = some (.matchClause optional paths condition)) {path : NodeHandle} (hpath : path ∈ paths)
    (hk : k ∈ patternNodes a path) (hnode : a.nodes[k]? = some (.nodePattern (some x) labels predicates))
    {r' : Row V} (hr : r' ∈ (I.stage a m).candidates r) : (r' x).isSome := by
  unfold stage at hr
  rw [hn] at hr
  exact I.binds a paths r r' hr path hpath k hk x labels predicates hnode

lemma stage_optional (hn : a.nodes[m]? = some (.matchClause optional paths condition)) :
    (I.stage a m).optional = optional := by
  unfold stage
  rw [hn]

structure Keeps (I : Interpretation V) (clauses : List NodeHandle) (reads others : Set Site)
    (cond cond' : NodeHandle → Row V → Prop) (a b : QueryAstArena) : Prop where
  layout : Layout b clauses reads others
  unseen : Unseen clauses (reads ∪ others) a b
  same : ∀ m ∈ clauses, b.nodes[m]? = a.nodes[m]?
  rows : ∀ bag, (I.pipeline b clauses cond').run bag = (I.pipeline a clauses cond).run bag

variable {cond cond' : NodeHandle → Row V → Prop}

section

variable (hl : Layout a clauses reads others) (hnodup : clauses.Nodup) (hsplit : clauses = pre ++ j :: post)
  (hn : a.nodes[j]? = some (.matchClause optional paths condition))

include hl hnodup hsplit hn

lemma keeps_of_hoisted {conjunct : NodeHandle} (hconjunct : (.expression, conjunct) ∈ reads)
    (hhoisted : Hoisted fuel optional paths pre.reverse conjunct a b) (hother : ∀ m, m ≠ j → cond' m = cond m)
    (hown : ∀ r, cond j r ↔ cond' j r ∧ I.Holds a r conjunct) :
    Keeps I clauses reads others cond cond' a b := by
  obtain ⟨x, hx, ⟨path, hpath, k, hk, hpush⟩ | ⟨rfl, i, hi, paths', condition', hn', path, hpath, k, hk, hpush⟩⟩ :=
    hhoisted
  · obtain ⟨labels, predicates, hnode, -⟩ := hpush.node
    have hj : j ∈ clauses := by simp [hsplit]
    have hpattern : PatternOf a j k := ⟨_, _, _, hn, path, hpath, hk, _, _, _, hnode⟩
    refine ⟨hl.push hj hpattern hpush hconjunct, hl.unseen_push hj hpattern hpush,
      fun m hm => hl.node_push hpush hm, fun bag => ?_⟩
    rw [pipeline_push_own hl hj hpattern hpush hconjunct hother hown]
  · obtain ⟨labels, predicates, hnode, -⟩ := hpush.node
    obtain ⟨front, mid, rfl⟩ := append_of_mem (List.mem_reverse.mp hi)
    have hi : i ∈ clauses := by simp [hsplit]
    have hpattern : PatternOf a i k := ⟨_, _, _, hn', path, hpath, hk, _, _, _, hnode⟩
    refine ⟨hl.push hi hpattern hpush hconjunct, hl.unseen_push hi hpattern hpush,
      fun m hm => hl.node_push hpush hm, fun bag => ?_⟩
    refine run_push_earlier hl hi hpattern hpush hconjunct (by simpa using hsplit) hnodup
      (stage_optional hn') (stage_optional hn) (fun r r' hr' r'' hle => ?_) hother hown bag
    exact holds_extract_iff hx hle (isSome_of_mem_candidates hn' hpath hk hnode hr')

end

variable (base truth : NodeHandle → Row V → Prop)

def conditions (j : NodeHandle) (conjuncts : List NodeHandle) : NodeHandle → Row V → Prop :=
  Function.update base j fun r => ∀ c ∈ conjuncts, truth c r

variable {conjuncts : List NodeHandle}

lemma conditions_own {base truth : NodeHandle → Row V → Prop} :
    conditions base truth j conjuncts j r ↔ ∀ c ∈ conjuncts, truth c r := by
  rw [conditions, Function.update_self]

lemma conditions_other {base truth : NodeHandle → Row V → Prop} (h : m ≠ j) :
    conditions base truth j conjuncts m = base m :=
  Function.update_of_ne h _ _

variable {c : QueryAstArena}

lemma Keeps.trans {cond'' : NodeHandle → Row V → Prop} (hab : Keeps I clauses reads others cond cond' a b)
    (hbc : Keeps I clauses reads others cond' cond'' b c) :
    Keeps I clauses reads others cond cond'' a c where
  layout := hbc.layout
  unseen := hab.unseen.trans hbc.unseen
  same m hm := (hbc.same m hm).trans (hab.same m hm)
  rows bag := (hbc.rows bag).trans (hab.rows bag)

variable {remaining : List NodeHandle}

lemma hoistConjuncts_keeps (hl : Layout a clauses reads others) (hnodup : clauses.Nodup)
    (hsplit : clauses = pre ++ j :: post) (hn : a.nodes[j]? = some (.matchClause optional paths condition))
    (hreads : ∀ c ∈ conjuncts, (.expression, c) ∈ reads)
    (htruth : ∀ c, (.expression, c) ∈ reads → ∀ r, I.Holds a r c ↔ truth c r)
    (hok : hoistConjuncts fuel optional paths pre.reverse conjuncts a = .ok (remaining, b)) (kept : List NodeHandle) :
    remaining ⊆ conjuncts ∧ Keeps I clauses reads others (conditions base truth j (kept ++ conjuncts))
      (conditions base truth j (kept ++ remaining)) a b := by
  induction conjuncts generalizing a remaining kept with
  | nil =>
    cases hok
    exact ⟨List.Subset.refl _, hl, .refl _, fun _ _ => rfl, fun _ => rfl⟩
  | cons c conjuncts ih =>
    obtain ⟨hoisted, a₁, hfirst, hloop⟩ := bind_ok.mp hok
    obtain ⟨rest, a₂, hrest, hreturn⟩ := bind_ok.mp hloop
    obtain ⟨hc, hreads⟩ := List.forall_mem_cons.mp hreads
    rcases hoistConjunct_attempts optional paths pre.reverse c a hoisted a₁ hfirst with ⟨rfl, hpushed⟩ | ⟨rfl, rfl⟩
    · cases hreturn
      have hkeeps : Keeps I clauses reads others (conditions base truth j (kept ++ c :: conjuncts))
          (conditions base truth j (kept ++ conjuncts)) a a₁ := by
        refine keeps_of_hoisted hl hnodup hsplit hn hc hpushed (fun m hm => ?_) fun r => ?_
        · rw [conditions_other hm, conditions_other hm]
        · rw [conditions_own, conditions_own, htruth c hc]
          simp only [forall_mem_append, forall_mem_cons]
          tauto
      obtain ⟨hsub, hrestkeeps⟩ := ih hkeeps.layout ((hkeeps.same j (by simp [hsplit])).trans hn) hreads
        (fun c' hc' r => (holds_of_unseen hl hkeeps.unseen hc').trans (htruth c' hc' r)) hrest kept
      exact ⟨fun c' hc' => mem_cons_of_mem c (hsub hc'), hkeeps.trans hrestkeeps⟩
    · cases hreturn
      obtain ⟨hsub, hrestkeeps⟩ := ih hl hn hreads htruth hrest (kept ++ [c])
      simp only [append_assoc, singleton_append] at hrestkeeps
      exact ⟨cons_subset_cons c hsub, hrestkeeps⟩

lemma whereOf_iff (hn : a.nodes[m]? = some (.matchClause optional paths condition)) :
    I.whereOf a m r ↔ ∀ h ∈ condition, I.Holds a r h := by
  unfold whereOf
  rw [hn]
  cases condition with
  | none => simp
  | some h => simp

structure Grown (clauses : List NodeHandle) (reads reads' others : Set Site) (a b : QueryAstArena) : Prop where
  layout : Layout b clauses reads' others
  subset : reads ⊆ reads'
  new : ∀ q ∈ reads', q ∈ reads ∨ a.len ≤ q.2
  len : a.len ≤ b.len
  same : ∀ k < a.len, b.nodes[k]? = a.nodes[k]?

variable {reads' reads'' : Set Site}

lemma Grown.trans (hab : Grown clauses reads reads' others a b) (hbc : Grown clauses reads' reads'' others b c) :
    Grown clauses reads reads'' others a c where
  layout := hbc.layout
  subset := hab.subset.trans hbc.subset
  new q hq := (hbc.new q hq).elim (hab.new q) fun h => .inr (hab.len.trans h)
  len := hab.len.trans hbc.len
  same k hk := (hbc.same k (hk.trans_le hab.len)).trans (hab.same k hk)

section

variable (hl : Layout a clauses reads others)

include hl

lemma grown_alloc {n : AstNode} (hn : ∀ q ∈ expression.children n, q ∈ reads) (hok : alloc n a = .ok (k, b)) :
    b.nodes[k]? = some n ∧ Grown clauses reads (insert (.expression, k) reads) others a b := by
  cases hok
  refine ⟨a.alloc_node n, hl.alloc hn, Set.subset_insert _ _, ?_, ?_, fun k hk => getElem?_append_left hk⟩
  · rintro q (rfl | hq)
    · exact .inr le_rfl
    · exact .inl hq
  · simp [QueryAstArena.len]

lemma Grown.holds_iff (hb : Grown clauses reads reads' others a b) {h : NodeHandle} (hh : (.expression, h) ∈ reads) :
    I.Holds b r h ↔ I.Holds a r h :=
  holds_of_unseen hl (hl.unseen_of_le hb.len hb.same) hh

lemma foldlM_and_grown {current result : NodeHandle} {rest : List NodeHandle}
    (hcurrent : (.expression, current) ∈ reads) (hrest : ∀ c ∈ rest, (.expression, c) ∈ reads)
    (hok : rest.foldlM (fun current next => alloc (.binaryExpression current .and next)) current a = .ok (result, b))
    :
    ∃ reads', Grown clauses reads reads' others a b ∧ (.expression, result) ∈ reads' ∧
      ∀ r, I.Holds b r result ↔ I.Holds a r current ∧ ∀ c ∈ rest, I.Holds a r c := by
  induction rest generalizing a current reads with
  | nil =>
    cases hok
    exact ⟨reads, ⟨hl, Set.Subset.rfl, fun _ => .inl, le_rfl, fun _ _ => rfl⟩, hcurrent, by simp⟩
  | cons c rest ih =>
    obtain ⟨next, a₁, halloc, hfold⟩ := bind_ok.mp hok
    obtain ⟨hc, hrest⟩ := List.forall_mem_cons.mp hrest
    obtain ⟨hnode, hgrown⟩ := grown_alloc hl (by simp [children, parts, view,
      AstNode.bodies, AstNode.operands, AstNode.children, hcurrent, hc]) halloc
    obtain ⟨reads', hgrown', hresult, hholds⟩ := ih hgrown.layout (Set.mem_insert _ _)
      (fun c' hc' => hgrown.subset (hrest c' hc')) hfold
    refine ⟨reads', hgrown.trans hgrown', hresult, fun r => ?_⟩
    have htail : (∀ c' ∈ rest, I.Holds a₁ r c') ↔ ∀ c' ∈ rest, I.Holds a r c' :=
      forall₂_congr fun c' hc' => hgrown.holds_iff hl (hrest c' hc')
    rw [hholds, holds_and hnode, hgrown.holds_iff hl hcurrent, hgrown.holds_iff hl hc, htail,
      forall_mem_cons, and_assoc]

lemma buildConjunctionTree_grown (hreads : ∀ c ∈ conjuncts, (.expression, c) ∈ reads)
    (hok : buildConjunctionTree conjuncts a = .ok (condition, b)) :
    ∃ reads', Grown clauses reads reads' others a b ∧ (∀ h ∈ condition, (.expression, h) ∈ reads') ∧
      ∀ r, (∀ h ∈ condition, I.Holds b r h) ↔ ∀ c ∈ conjuncts, I.Holds a r c := by
  cases conjuncts with
  | nil =>
    cases hok
    exact ⟨reads, ⟨hl, Set.Subset.rfl, fun _ => .inl, le_rfl, fun _ _ => rfl⟩, by simp, by simp⟩
  | cons first rest =>
    obtain ⟨current, a₁, hfold, hok⟩ := bind_ok.mp hok
    obtain ⟨top, a₂, halloc, hreturn⟩ := bind_ok.mp hok
    cases hreturn
    obtain ⟨hfirst, hrest⟩ := List.forall_mem_cons.mp hreads
    obtain ⟨reads₁, hgrown, hcurrent, hholds⟩ := foldlM_and_grown (I := I) hl hfirst hrest hfold
    obtain ⟨hnode, hgrown'⟩ := grown_alloc hgrown.layout (by simp [children, parts,
      view, AstNode.bodies, AstNode.operands, AstNode.children, hcurrent]) halloc
    refine ⟨_, hgrown.trans hgrown', ?_, fun r => ?_⟩
    · rintro h ⟨⟩
      exact Set.mem_insert _ _
    · rw [forall_mem_cons, ← hholds, ← hgrown'.holds_iff hgrown.layout hcurrent]
      simp [holds_where hnode]

end

structure Preserves (I : Interpretation V) (clauses : List NodeHandle) (reads reads' others : Set Site)
    (a b : QueryAstArena) : Prop where
  layout : Layout b clauses reads' others
  subset : reads ⊆ reads'
  new : ∀ q ∈ reads', q ∈ reads ∨ a.len ≤ q.2
  unseen : Unseen clauses (reads ∪ others) a b
  rows : ∀ bag, (I.pipeline b clauses (I.whereOf b)).run bag = (I.pipeline a clauses (I.whereOf a)).run bag

lemma Preserves.refl (hl : Layout a clauses reads others) : Preserves I clauses reads reads others a a :=
  ⟨hl, Set.Subset.rfl, fun _ => .inl, .refl a, fun _ => rfl⟩

lemma Preserves.trans (hab : Preserves I clauses reads reads' others a b)
    (hbc : Preserves I clauses reads' reads'' others b c) :
    Preserves I clauses reads reads'' others a c where
  layout := hbc.layout
  subset := hab.subset.trans hbc.subset
  new q hq := (hbc.new q hq).elim (hab.new q) fun h => .inr (hab.unseen.len.trans h)
  unseen := hab.unseen.trans (hbc.unseen.mono (Set.union_subset_union_left others hab.subset))
  rows bag := (hbc.rows bag).trans (hab.rows bag)

lemma preserves_setWhere {a₁ a₂ : QueryAstArena} {condition' : Option NodeHandle}
    (hl : Layout a clauses reads others) (hj : j ∈ clauses)
    (hn : a.nodes[j]? = some (.matchClause optional paths condition))
    (hreads : ∀ c ∈ remaining, (.expression, c) ∈ reads)
    (hkeeps : Keeps I clauses reads others (I.whereOf a) (conditions (I.whereOf a) (fun c r => I.Holds a r c) j remaining) a a₁)
    (hgrown : Grown clauses reads reads' others a₁ a₂) (hcondition : ∀ h ∈ condition', (.expression, h) ∈ reads')
    (hholds : ∀ r, (∀ h ∈ condition', I.Holds a₂ r h) ↔ ∀ c ∈ remaining, I.Holds a₁ r c)
    (hb : b = ⟨a₂.nodes.set j (.matchClause optional paths condition')⟩) :
    Preserves I clauses reads reads' others a b := by
  have hl₁ := hkeeps.layout
  have hl₂ := hgrown.layout
  have hn₁ : a₁.nodes[j]? = some (.matchClause optional paths condition) := (hkeeps.same j hj).trans hn
  have hn₂ : a₂.nodes[j]? = some (.matchClause optional paths condition) :=
    (hgrown.same j (hl₁.clause_lt hj)).trans hn₁
  have hunseen₂ := hl₂.unseen_setWhere hj hn₂ hb
  have hunseen : Unseen clauses (reads ∪ others) a₁ b :=
    (hl₁.unseen_of_le hgrown.len hgrown.same).trans
      (hunseen₂.mono (Set.union_subset_union_left others hgrown.subset))
  have hunseena : Unseen clauses (reads ∪ others) a b := hkeeps.unseen.trans hunseen
  refine ⟨hl₂.setWhere hj hn₂ hb hcondition, hgrown.subset, fun q hq => ?_, hunseena, fun bag => ?_⟩
  · exact (hgrown.new q hq).imp_right hkeeps.unseen.len.trans
  rw [← hkeeps.rows bag]
  congr 1
  refine pipeline_congr (fun m hm => stage_of_unseen hl₁ hunseen hm) fun m hm r => ?_
  refine and_congr (patternsOf_of_unseen hl₁ hunseen hm fun h => ?_) ?_
  · rw [hl₂.patternPredicate_setWhere hj hn₂ hb hm]
    refine hl₁.patternPredicate_of_unseen (hl₁.unseen_of_le hgrown.len hgrown.same) hm ?_
    rintro k ⟨_, _, _, _, _, _, _, var, labels, predicates, hk⟩
    exact hgrown.same k (List.getElem?_eq_some_iff.mp hk).1
  · by_cases h : m = j
    · subst h
      have hnb : b.nodes[m]? = some (.matchClause optional paths condition') := by
        rw [hb]
        exact getElem?_set_self (List.getElem?_eq_some_iff.mp hn₂).1
      have hnew : (∀ h ∈ condition', I.Holds b r h) ↔ ∀ h ∈ condition', I.Holds a₂ r h :=
        forall₂_congr fun h hh => holds_of_unseen hl₂ hunseen₂ (hcondition h hh)
      rw [whereOf_iff hnb, hnew, hholds, conditions_own]
      exact forall₂_congr fun c hc => holds_of_unseen hl hkeeps.unseen (hreads c hc)
    · obtain ⟨optional', paths', condition'', hm', -, hreads'⟩ := hl.clause m hm
      have hmb : b.nodes[m]? = some (.matchClause optional' paths' condition'') := by
        rw [hb, getElem?_set_ne (Ne.symm h), hgrown.same m (hl₁.clause_lt hm), hkeeps.same m hm, hm']
      rw [conditions_other h, whereOf_iff hmb, whereOf_iff hm']
      exact forall₂_congr fun h hh => holds_of_unseen hl hunseena (hreads' h hh)

lemma optimizeMatchClause_preserves (hl : Layout a clauses reads others) (hnodup : clauses.Nodup)
    (hsplit : clauses = pre ++ j :: post) {u : Unit} (hok : optimizeMatchClause fuel j (pre ++ [j]) a = .ok (u, b)) :
    ∃ reads', Preserves I clauses reads reads' others a b := by
  have hj : j ∈ clauses := by simp [hsplit]
  obtain ⟨optional, paths, condition, hn, -, hcondition⟩ := hl.clause j hj
  obtain ⟨n, a', hget, hrest⟩ := bind_ok.mp hok
  obtain ⟨hn', rfl⟩ := getNode_ok hget
  cases hn.symm.trans hn'
  cases condition with
  | none =>
    cases hrest
    exact ⟨reads, .refl hl⟩
  | some whereHandle =>
    obtain ⟨_, _, hread, hbody⟩ := bind_ok.mp hrest
    cases hread
    obtain ⟨conjuncts, a₀, hcollect, hloop⟩ := bind_ok.mp hbody
    obtain ⟨hcollect, rfl⟩ := Lib.lift_ok.mp hcollect
    obtain ⟨remaining, a₁, hhoist, htree⟩ := bind_ok.mp hloop
    obtain ⟨condition', a₂, hbuild, hmodify⟩ := bind_ok.mp htree
    rw [reverse_append, reverse_singleton, singleton_append, drop_one, tail_cons] at hhoist
    obtain ⟨hsites, hall⟩ := collectConjuncts_spec (I := I) hcollect hl.closed (hcondition whereHandle rfl)
    obtain ⟨hsub, hkeeps⟩ := hoistConjuncts_keeps (I.whereOf a₀) (fun c r => I.Holds a₀ r c) hl hnodup hsplit hn
      hsites (fun _ _ _ => Iff.rfl) hhoist []
    have hreads : ∀ c ∈ remaining, (.expression, c) ∈ reads := fun c hc => hsites c (hsub hc)
    have hstart : conditions (I.whereOf a₀) (fun c r => I.Holds a₀ r c) j conjuncts = I.whereOf a₀ := by
      refine Function.update_eq_self_iff.mpr (funext fun r => propext ?_)
      rw [whereOf_iff hn, ← hall]
      simp
    rw [nil_append, nil_append, hstart] at hkeeps
    obtain ⟨reads', hgrown, hcondition', hholds⟩ := buildConjunctionTree_grown (I := I) hkeeps.layout hreads hbuild
    obtain ⟨n', hn₂, hb⟩ := modifyNode_ok hmodify
    have hn₂' : a₂.nodes[j]? = some (.matchClause optional paths (some whereHandle)) :=
      (hgrown.same j (hkeeps.layout.clause_lt hj)).trans ((hkeeps.same j hj).trans hn)
    cases hn₂.symm.trans hn₂'
    exact ⟨reads', preserves_setWhere hl hj hn hreads hkeeps hgrown hcondition' hholds hb⟩

lemma optimizeMatches_preserves (hnodup : clauses.Nodup) (hl : Layout a clauses reads others) {u : PUnit}
    (hsplit : clauses = pre ++ post)
    (hok : ((post.zipIdx pre.length).forM fun (h, idx) =>
      optimizeMatchClause fuel h (clauses.take (idx + 1)) : OptM PUnit) a = .ok (u, b)) :
    ∃ reads', Preserves I clauses reads reads' others a b := by
  induction post generalizing a pre reads with
  | nil =>
    cases hok
    exact ⟨reads, .refl hl⟩
  | cons j post ih =>
    rw [zipIdx_cons] at hok
    obtain ⟨u', a₁, hfirst, hrest⟩ := bind_ok.mp hok
    have htake : clauses.take (pre.length + 1) = pre ++ [j] := by
      rw [hsplit, take_append]
      simp
    simp only [htake] at hfirst
    obtain ⟨reads₁, hone⟩ := optimizeMatchClause_preserves (I := I) hl hnodup hsplit hfirst
    have hsplit' : clauses = (pre ++ [j]) ++ post := by simp [hsplit]
    obtain ⟨reads₂, htwo⟩ := ih hone.layout hsplit' (by simpa using hrest)
    exact ⟨reads₂, hone.trans htwo⟩

end Voyager
