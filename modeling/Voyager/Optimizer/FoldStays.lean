import Voyager.Optimizer.FoldFrame

/-! Each function of the folding pass stays within the sites it starts from. -/

namespace Voyager.AstOptimizer

open AstNode List Option Stays

variable {sites : Set Site}

structure FoldsStay (sites : Set Site) (c : Folds) : Prop where
  expression : ∀ h, (.expression, h) ∈ sites → Stays sites (c.expression h) fun h' => (.expression, h') ∈ sites
  pathPredicates : ∀ h, (.whole, h) ∈ sites → Stays sites (c.pathPredicates h) fun _ => True
  allExpressions : ∀ h, (.whole, h) ∈ sites → Stays sites (c.allExpressions h) fun _ => True

attribute [local simp] AstNode.bodies AstNode.operands AstNode.children

lemma inside_literal (lit : LiteralValue) : Inside sites (.literal lit) := ⟨by simp, by
  simp⟩

variable {left right : NodeHandle}

lemma inside_binary (op : BinaryOp) (hl : (.expression, left) ∈ sites) (hr : (.expression, right) ∈ sites) :
    Inside sites (.binaryExpression left op right) :=
  ⟨by simp, by simp [hl, hr]⟩

variable {operand : NodeHandle}

lemma identityLaw_mem {kept : NodeHandle} {leftNode rightNode : AstNode} {op : BinaryOp}
    (h : identityLaw left right leftNode op rightNode = some kept) : kept = left ∨ kept = right := by
  unfold identityLaw at h
  split at h <;> simp_all

lemma foldBinaryOp_stays (op : BinaryOp) (hl : (.expression, left) ∈ sites) (hr : (.expression, right) ∈ sites) :
    Stays sites (foldBinaryOp left op right) fun h => (.expression, h) ∈ sites := by
  intro a h b ha hok
  obtain ⟨leftNode, _, hget, hrest⟩ := Lib.bind_ok.mp hok
  obtain ⟨hln, rfl⟩ := getNode_ok hget
  obtain ⟨rightNode, _, hget, -⟩ := Lib.bind_ok.mp hrest
  obtain ⟨hrn, rfl⟩ := getNode_ok hget
  obtain ⟨m, hm, hstep⟩ := foldBinaryOp_step op hln hrn
  rw [hm] at hok
  suffices Stays sites m fun h => (.expression, h) ∈ sites from this _ h b ha hok
  cases hstep with
  | literal => exact .alloc (inside_literal _)
  | law hlaw =>
    refine .pure ?_
    rcases identityLaw_mem hlaw with rfl | rfl
    · exact hl
    · exact hr
  | regroup hnode _ hregroups =>
    subst hnode
    have hinside := (ha.inside left _ hln (.inr ⟨hl, rfl⟩)).operands
    refine (Stays.alloc (inside_literal _)).bind fun newLit hnew => .alloc (inside_binary op (hinside _ ?_) hnew)
    cases hregroups <;> simp
  | same => exact .alloc (inside_binary op hl hr)
  | missing => exact .throw _

lemma foldUnaryOp_stays (op : UnaryOp) (h : (.expression, operand) ∈ sites) :
    Stays sites (foldUnaryOp op operand) fun h => (.expression, h) ∈ sites := by
  refine .getExpression_bind h fun n hn => ?_
  have hkeep : Stays sites (alloc (.unaryExpression op operand)) fun h => (.expression, h) ∈ sites :=
    .alloc (⟨by simp, by simp [h]⟩)
  split
  · exact .alloc (inside_literal _)
  · exact .pure ((hn rfl).operands _ (by simp))
  · split
    · exact .alloc (inside_literal _)
    · exact hkeep
  · split
    · exact .alloc (inside_literal _)
    · exact hkeep
  · exact .pure ((hn rfl).operands _ (by simp))
  · exact .alloc (inside_literal _)
  · exact .alloc (inside_literal _)
  · exact hkeep

variable {o : Option NodeHandle}

lemma optionForM_stays {body : NodeHandle → OptM PUnit} (h : ∀ k ∈ o, Stays sites (body k) fun _ => True) :
    Stays sites (o.forM body) fun _ => True := by
  cases o with
  | none => exact .pure trivial
  | some k => exact h k rfl

structure BranchesIn (sites : Set Site) (result : List (NodeHandle × NodeHandle) × Option NodeHandle) : Prop where
  branches : ∀ b ∈ result.1, (.expression, b.1) ∈ sites ∧ (.expression, b.2) ∈ sites
  hit : ∀ k ∈ result.2, (.expression, k) ∈ sites

section

variable {c : Folds} (hc : FoldsStay sites c)

include hc

lemma foldOption_stays (ho : ∀ h ∈ o, (.expression, h) ∈ sites) :
    Stays sites (foldOption c o) fun o' => ∀ h ∈ o', (.expression, h) ∈ sites := by
  cases o with
  | none => exact .pure (by simp)
  | some h => exact (hc.expression h (ho h rfl)).bind fun h' hh' => .pure (by simpa using hh')

lemma mapM_expression_stays {hs : List NodeHandle} (h : ∀ k ∈ hs, (.expression, k) ∈ sites) :
    Stays sites (hs.mapM c.expression) fun ks => ∀ k ∈ ks, (.expression, k) ∈ sites :=
  .mapM fun k hk => hc.expression k (h k hk)

variable {branches : List (NodeHandle × NodeHandle)}

lemma foldBranches_stays (hasOperand : Bool)
    (h : ∀ b ∈ branches, (.expression, b.1) ∈ sites ∧ (.expression, b.2) ∈ sites) :
    Stays sites (foldBranches c hasOperand branches) (BranchesIn sites) := by
  induction branches with
  | nil => exact .pure ⟨by simp, by simp⟩
  | cons branch rest ih =>
    obtain ⟨whenH, thenH⟩ := branch
    obtain ⟨⟨hwhen, hthen⟩, hrest⟩ := List.forall_mem_cons.mp h
    refine (hc.expression whenH hwhen).bind fun foldedWhen hfw =>
      (hc.expression thenH hthen).bind fun foldedThen hft => ?_
    have hkeep : ∀ result, BranchesIn sites result →
        Stays sites (Pure.pure ((foldedWhen, foldedThen) :: result.1, result.2)) (BranchesIn sites) :=
      fun result hresult => .pure ⟨List.forall_mem_cons.mpr ⟨⟨hfw, hft⟩, hresult.branches⟩, hresult.hit⟩
    split
    · exact (ih hrest).bind hkeep
    · refine .getExpression_bind hfw fun n _ => ?_
      split
      · exact .pure ⟨by simp, by simpa using hft⟩
      · exact ih hrest
      · exact (ih hrest).bind hkeep

lemma foldCaseExpression_stays {operand elseBranch : Option NodeHandle}
    (hoperand : ∀ h ∈ operand, (.expression, h) ∈ sites)
    (hbranches : ∀ b ∈ branches, (.expression, b.1) ∈ sites ∧ (.expression, b.2) ∈ sites)
    (helse : ∀ h ∈ elseBranch, (.expression, h) ∈ sites) :
    Stays sites (foldCaseExpression c operand branches elseBranch) fun h => (.expression, h) ∈ sites := by
  refine (foldOption_stays hc hoperand).bind fun foldedOperand hfo =>
    (foldBranches_stays hc _ hbranches).bind fun result hresult => ?_
  obtain ⟨foldedBranches, hit⟩ := result
  cases hit with
  | some hit => exact .pure (hresult.hit hit rfl)
  | none =>
    refine (foldOption_stays hc helse).bind fun foldedElse hfe => ?_
    split
    · exact .pure (hfe _ rfl)
    · exact .alloc (inside_literal _)
    · refine .alloc ⟨by simp, ?_⟩
      simp only [operands, children, mem_append, mem_toList, mem_flatMap]
      rintro k ((hk | ⟨b, hb, hk⟩) | hk)
      · exact hfo k hk
      · have hpair := hresult.branches b hb
        simp only [mem_cons, not_mem_nil, or_false] at hk
        rcases hk with rfl | rfl
        · exact hpair.1
        · exact hpair.2
      · exact hfe k hk

lemma foldWhere_stays {condition : Option NodeHandle} (h : ∀ k ∈ condition, (.whole, k) ∈ sites) :
    Stays sites (foldWhere c condition) fun _ => True := by
  refine optionForM_stays fun k hk => .getWhole_bind (h k hk) fun n hn => ?_
  split
  · rename_i rootPredicate
    have hroot := hn.operands rootPredicate (by simp)
    refine (hc.expression rootPredicate hroot).bind fun folded hfolded =>
      .modifyNode (h k hk) (fun n' hn' => ?_) fun n' => ?_
    · split
      · exact ⟨by simp, by simpa using hfolded⟩
      · exact hn'
    · cases n' <;> rfl
  · exact .pure trivial

variable {h : NodeHandle}

lemma foldMatchClause_stays (hh : (.whole, h) ∈ sites) : Stays sites (foldMatchClause c h) fun _ => True := by
  refine .getWhole_bind hh fun n hn => ?_
  split
  · have hbodies := hn.bodies
    simp only [bodies, children, mem_append, mem_toList] at hbodies
    exact (forM fun path hpath => hc.pathPredicates path (hbodies path (.inl hpath))).bind fun _ _ =>
      foldWhere_stays hc fun k hk => hbodies k (.inr hk)
  · exact .pure trivial

lemma foldSubquery_stays (hh : (.whole, h) ∈ sites) : Stays sites (foldSubquery c h) fun _ => True := by
  refine .getWhole_bind hh fun n hn => ?_
  split
  · exact hc.allExpressions h hh
  · exact foldMatchClause_stays hc hh
  · exact hc.pathPredicates h hh
  · exact hc.pathPredicates h hh
  · exact .pure trivial

lemma foldSetItem_stays (hh : (.whole, h) ∈ sites) : Stays sites (foldSetItem c h) fun _ => True := by
  refine .getWhole_bind hh fun n hn => ?_
  split
  · rename_i target value isMerge
    refine (hc.expression value (hn.operands value (by simp))).bind
      fun folded hfolded => .modifyNode hh (fun n' hn' => ?_) fun n' => ?_
    · split
      · rename_i target' value' isMerge'
        have htarget := hn'.operands target' (by simp)
        exact ⟨by simp, by simp [htarget, hfolded]⟩
      · exact hn'
    · cases n' <;> rfl
  · exact .pure trivial

lemma foldExpression_stays (hh : (.expression, h) ∈ sites) :
    Stays sites (foldExpression c h) fun h' => (.expression, h') ∈ sites := by
  unfold foldExpression
  split
  · exact .pure hh
  refine .getExpression_bind hh fun n hn => ?_
  cases n with
  | binaryExpression left op right =>
    have hoperands := (hn rfl).operands
    simp only [operands, children, mem_cons, not_mem_nil, or_false] at hoperands
    exact (hc.expression left (hoperands left (.inl rfl))).bind fun l hl =>
      (hc.expression right (hoperands right (.inr rfl))).bind fun r hr => foldBinaryOp_stays op hl hr
  | unaryExpression op operand =>
    exact (hc.expression operand ((hn rfl).operands operand (by simp))).bind
      fun o ho => foldUnaryOp_stays op ho
  | functionCall name arguments | listLiteral items =>
    exact (mapM_expression_stays hc (hn rfl).operands).bind fun ks hks => .alloc ⟨by simp, hks⟩
  | caseExpression operand branches elseBranch =>
    have hoperands := (hn rfl).operands
    simp only [operands, children, mem_append, mem_toList, mem_flatMap] at hoperands
    refine foldCaseExpression_stays hc (fun k hk => hoperands k (.inl (.inl hk)))
      (fun b hb => ⟨hoperands b.1 (.inl (.inr ⟨b, hb, by simp⟩)), hoperands b.2 (.inl (.inr ⟨b, hb, by simp⟩))⟩)
      fun k hk => hoperands k (.inr hk)
  | listComprehension var listExpression whereFilter mapExpression =>
    have hoperands := (hn rfl).operands
    simp only [operands, children, mem_append, mem_cons, mem_toList] at hoperands
    refine (hc.expression listExpression (hoperands _ (.inl (.inl rfl)))).bind fun l hl =>
      (foldOption_stays hc fun k hk => hoperands k (.inl (.inr hk))).bind fun w hw =>
        (foldOption_stays hc fun k hk => hoperands k (.inr hk)).bind fun m hm =>
          .alloc ⟨by simp, ?_⟩
    simp only [operands, children, mem_append, mem_cons, mem_toList]
    rintro k ((rfl | hk) | hk)
    · exact hl
    · exact hw k hk
    · exact hm k hk
  | patternComprehension path whereFilter projection =>
    have hoperands := (hn rfl).operands
    simp only [operands, mem_append, mem_singleton, mem_toList] at hoperands
    refine (foldOption_stays hc fun k hk => hoperands k (.inl hk)).bind fun w hw =>
      (hc.expression projection (hoperands _ (.inr rfl))).bind fun p hp => .alloc ⟨(hn rfl).bodies, ?_⟩
    simp only [operands, mem_append, mem_singleton, mem_toList]
    rintro k (hk | rfl)
    · exact hw k hk
    · exact hp
  | existsSubquery subquery | countSubquery subquery =>
    exact (foldSubquery_stays hc ((hn rfl).bodies subquery (by simp))).bind
      fun _ _ => .pure hh
  | _ => exact .pure hh

lemma foldEdge_stays (hnull : (.whole, NodeHandle.null) ∈ sites) {edge : NodeHandle} (hedge : (.whole, edge) ∈ sites) :
    Stays sites (do
      match ← getNode edge with
      | .edgePattern _ _ _ _ _ predicates targetNode =>
        let folded ← predicates.mapM c.expression
        modifyNode edge fun
          | .edgePattern var labels direction minHops maxHops _ target =>
            .edgePattern var labels direction minHops maxHops folded target
          | other => other
        c.pathPredicates targetNode
      | _ => Pure.pure ()) fun _ => True := by
  refine .getWhole_bind hedge fun n hn => ?_
  split
  · rename_i var labels direction minHops maxHops predicates target
    have htarget : (.whole, target) ∈ sites := by
      by_cases h : target.isNull = true
      · rw [NodeHandle.isNull, beq_iff_eq] at h
        exact h ▸ hnull
      · exact hn.bodies target (by simp [present, h])
    refine (mapM_expression_stays hc hn.operands).bind fun folded hfolded =>
      (Stays.modifyNode hedge (fun n' hn' => ?_) fun n' => ?_).bind fun _ _ =>
        hc.pathPredicates target htarget
    · split
      · exact ⟨hn'.bodies, hfolded⟩
      · exact hn'
    · cases n' <;> rfl
  · exact .pure trivial

lemma foldPathPredicates_stays (hnull : (.whole, NodeHandle.null) ∈ sites)
    (hh : (.whole, h) ∈ sites) : Stays sites (foldPathPredicates c h) fun _ => True := by
  refine .getWhole_bind hh fun n hn => ?_
  split
  · refine (mapM_expression_stays hc hn.operands).bind fun folded hfolded =>
      .modifyNode hh (fun n' hn' => ?_) fun n' => ?_
    · split
      · exact ⟨hn'.bodies, hfolded⟩
      · exact hn'
    · cases n' <;> rfl
  · have hbodies := hn.bodies
    simp only [bodies, forall_mem_cons] at hbodies
    exact (hc.pathPredicates _ hbodies.1).bind fun _ _ =>
      .forM fun edge hedge => foldEdge_stays hc hnull (hbodies.2 edge hedge)
  · exact .pure trivial

lemma optimizeMutationClause_stays (hh : (.whole, h) ∈ sites) :
    Stays sites (optimizeMutationClause c h) fun _ => True := by
  refine .getWhole_bind hh fun n hn => ?_
  have hbodies := hn.bodies
  split
  · exact .forM fun item hitem => foldSetItem_stays hc (hbodies item hitem)
  · simp only [bodies, children, mem_append, mem_cons] at hbodies
    exact (hc.pathPredicates _ (hbodies _ (.inl (.inl rfl)))).bind fun _ _ =>
      (forM fun item hitem => foldSetItem_stays hc (hbodies item (.inl (.inr hitem)))).bind fun _ _ =>
        .forM fun item hitem => foldSetItem_stays hc (hbodies item (.inr hitem))
  · exact .forM fun path hpath => hc.pathPredicates path (hbodies path hpath)
  · exact .pure trivial

lemma foldProjections_stays {projections : List ProjectionItem}
    (h : ∀ item ∈ projections, (.expression, item.expression) ∈ sites) :
    Stays sites (foldProjections c projections) fun items =>
      ∀ item ∈ items, (.expression, item.expression) ∈ sites :=
  .mapM fun item hitem => (hc.expression item.expression (h item hitem)).bind fun _ hk => .pure hk

lemma foldOrderBy_stays {orderBy : List (NodeHandle × Bool)} (h : ∀ o ∈ orderBy, (.expression, o.1) ∈ sites) :
    Stays sites (foldOrderBy c orderBy) fun os => ∀ o ∈ os, (.expression, o.1) ∈ sites :=
  .mapM fun o ho => (hc.expression o.1 (h o ho)).bind fun _ hk => .pure hk

omit hc in
lemma forall_operands {projections : List ProjectionItem} {orderBy : List (NodeHandle × Bool)} :
    (∀ k ∈ projections.map ProjectionItem.expression ++ orderBy.map Prod.fst, (.expression, k) ∈ sites) ↔
      (∀ item ∈ projections, (.expression, item.expression) ∈ sites) ∧ ∀ o ∈ orderBy, (.expression, o.1) ∈ sites := by
  simp only [List.forall_mem_append, List.forall_mem_map]

section

variable (hh : (.whole, h) ∈ sites)

include hh

lemma foldWithClause_stays : Stays sites (foldWithClause c h) fun _ => True := by
  refine .getWhole_bind hh fun n hn => ?_
  split
  · obtain ⟨hprojections, horder⟩ := forall_operands.mp hn.operands
    refine (foldProjections_stays hc hprojections).bind fun ps hps => (foldOrderBy_stays hc horder).bind fun os hos =>
      (Stays.modifyNode hh (fun n' hn' => ?_) fun n' => ?_).bind fun _ _ =>
        foldWhere_stays hc fun k hk => hn.bodies k (by simpa using hk)
    · split
      · exact ⟨hn'.bodies, forall_operands.mpr ⟨hps, hos⟩⟩
      · exact hn'
    · cases n' <;> rfl
  · exact .pure trivial

lemma foldReturnClause_stays : Stays sites (foldReturnClause c h) fun _ => True := by
  refine .getWhole_bind hh fun n hn => ?_
  split
  · obtain ⟨hprojections, horder⟩ := forall_operands.mp hn.operands
    refine (foldProjections_stays hc hprojections).bind fun ps hps => (foldOrderBy_stays hc horder).bind fun os hos =>
      .modifyNode hh (fun n' hn' => ?_) fun n' => ?_
    · split
      · exact ⟨hn'.bodies, forall_operands.mpr ⟨hps, hos⟩⟩
      · exact hn'
    · cases n' <;> rfl
  · exact .pure trivial

lemma foldOperand_stays {value : NodeHandle} (hvalue : (.expression, value) ∈ sites)
    {g : NodeHandle → AstNode → AstNode}
    (hg : ∀ k n, g k n = n ∨ n.frame = none ∧ (g k n).frame = none ∧ (g k n).bodies = [] ∧ (g k n).operands = [k]) :
    Stays sites (do let folded ← c.expression value; modifyNode h (g folded)) fun _ => True := by
  refine (hc.expression value hvalue).bind fun folded hfolded => .modifyNode hh (fun n hn => ?_) fun n => ?_
  · rcases hg folded n with heq | ⟨-, -, hbodies, hoperands⟩
    · rwa [heq]
    · exact ⟨by rw [hbodies]; simp, by rw [hoperands]; simpa using hfolded⟩
  · rcases hg folded n with heq | ⟨hframe, hframe', -⟩
    · rw [heq]
    · rw [hframe, hframe']

lemma foldLoadCsv_stays : Stays sites (foldLoadCsv c h) fun _ => True := by
  refine .getWhole_bind hh fun n hn => ?_
  split
  · refine foldOperand_stays hc hh (hn.operands _ (by simp)) fun k n' => ?_
    cases n' with
    | loadCsvClause => exact .inr ⟨rfl, rfl, rfl, rfl⟩
    | _ => exact .inl rfl
  · exact .pure trivial

lemma foldUnwind_stays : Stays sites (foldUnwind c h) fun _ => True := by
  refine .getWhole_bind hh fun n hn => ?_
  split
  · refine foldOperand_stays hc hh (hn.operands _ (by simp)) fun k n' => ?_
    cases n' with
    | unwindClause => exact .inr ⟨rfl, rfl, rfl, rfl⟩
    | _ => exact .inl rfl
  · exact .pure trivial

lemma foldLinear_stays : Stays sites (foldLinear c h) fun _ => True := by
  refine .getWhole_bind hh fun n hn => ?_
  split
  · refine foldOperand_stays hc hh (hn.operands _ (by simp)) fun k n' => ?_
    cases n' with
    | letClause => exact .inr ⟨rfl, rfl, rfl, rfl⟩
    | _ => exact .inl rfl
  · refine foldOperand_stays hc hh (hn.operands _ (by simp)) fun k n' => ?_
    cases n' with
    | filterClause => exact .inr ⟨rfl, rfl, rfl, rfl⟩
    | _ => exact .inl rfl
  · exact .pure trivial

lemma foldAllExpressions_stays : Stays sites (foldAllExpressions c h) fun _ => True := by
  refine .getWhole_bind hh fun n hn => ?_
  split
  · have hbodies := hn.bodies
    simp only [bodies, children, List.forall_mem_append, mem_toList] at hbodies
    obtain ⟨⟨⟨⟨⟨⟨hload, hunwinds⟩, hmatches⟩, hlinear⟩, hwith⟩, hmutations⟩, hreturn⟩ := hbodies
    exact (optionForM_stays fun k hk => foldLoadCsv_stays hc (hload k hk)).bind fun _ _ =>
      (forM fun k hk => foldUnwind_stays hc (hunwinds k hk)).bind fun _ _ =>
      (forM fun k hk => foldMatchClause_stays hc (hmatches k hk)).bind fun _ _ =>
      (forM fun k hk => foldWithClause_stays hc (hwith k hk)).bind fun _ _ =>
      (forM fun k hk => foldLinear_stays hc (hlinear k hk)).bind fun _ _ =>
      (forM fun k hk => optimizeMutationClause_stays hc (hmutations k hk)).bind fun _ _ =>
      optionForM_stays fun k hk => foldReturnClause_stays hc (hreturn k hk)
  · exact .pure trivial

end

end

theorem folds_stay (hnull : (.whole, NodeHandle.null) ∈ sites) (fuel : ℕ) : FoldsStay sites (folds fuel) := by
  induction fuel with
  | zero => exact ⟨fun _ _ => .throw _, fun _ _ => .throw _, fun _ _ => .throw _⟩
  | succ fuel ih =>
    exact ⟨fun _ hh => foldExpression_stays ih hh, fun _ hh => foldPathPredicates_stays ih hnull hh,
      fun _ hh => foldAllExpressions_stays ih hh⟩

end Voyager.AstOptimizer
