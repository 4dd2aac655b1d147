import Voyager.Optimizer.Occurrences

/-! The used-variable analysis collects exactly the names that stand where it looks. -/

namespace Voyager.AstOptimizer

attribute [local simp] Role.reads AstNode.names

def Collects (m : Except Error (List String)) (P : String → Prop) : Prop :=
  ∀ us, m = .ok us → ∀ x, x ∈ us ↔ P x

variable {h : NodeHandle}

namespace Collects

variable {P Q : String → Prop} {m k : Except Error (List String)}

lemma pure (us : List String) : Collects (Pure.pure us) (· ∈ us) := by
  intro vs h x
  cases h
  rfl

lemma error (err : Error) : Collects (.error err) P := by
  intro us h
  cases h

lemma congr (hm : Collects m P) (h : ∀ x, P x ↔ Q x) : Collects m Q := by
  intro us hus x
  rw [hm us hus x, h]

lemma union (hm : Collects m P) (hk : Collects k Q) : Collects (union m k) (fun x => P x ∨ Q x) := by
  intro us h x
  obtain ⟨u, hu, hrest⟩ := Lib.except_bind_ok.mp h
  obtain ⟨v, hv, huv⟩ := Lib.except_bind_ok.mp hrest
  cases huv
  rw [List.mem_append, hm u hu, hk v hv]

lemma gather {ι : Type} {f : ι → Except Error (List String)} {R : ι → String → Prop}
    (hf : ∀ i, Collects (f i) (R i)) (is : List ι) :
    Collects (gather f is) (fun x => ∃ i ∈ is, R i x) := by
  induction is with
  | nil => exact (pure []).congr (by simp)
  | cons i is ih => exact ((hf i).union ih).congr (by simp)

lemma get {arena : QueryAstArena} {f : AstNode → Except Error (List String)}
    (hf : ∀ n, arena.nodes[h]? = some n → Collects (f n) P) : Collects (arena.get h >>= f) P := by
  intro us hus
  obtain ⟨n, hn, hbody⟩ := Lib.except_bind_ok.mp hus
  exact hf n (QueryAstArena.get_eq_ok.mp hn) us hbody

end Collects

open AstOptimizer.Collects

section

variable (arena : QueryAstArena)

abbrev Finds (f : NodeHandle → Except Error (List String)) (role : Role) : Prop :=
  ∀ h, Collects (f h) (Inspected arena role h)

variable {arena}

variable {role : Role}

lemma Collects.at_unread {m : Except Error (List String)} {n : AstNode} (hn : arena.nodes[h]? = some n)
    (hreads : role.reads n = false) (hm : Collects m (InspectedIn arena (role.parts n))) :
    Collects m (Inspected arena role h) := by
  refine hm.congr fun x => ?_
  rw [inspected_iff hn, hreads]
  simp

lemma Collects.nothing : Collects (Pure.pure []) (InspectedIn arena []) :=
  (pure []).congr (by simp)

variable {f : NodeHandle → Except Error (List String)}

lemma Finds.each (hf : Finds arena f role) (hs : List NodeHandle) :
    Collects (gather f hs) (InspectedIn arena (role.each hs)) :=
  (Collects.gather hf hs).congr fun _ => (inspectedIn_each hs).symm

lemma Finds.one (hf : Finds arena f role) (h : NodeHandle) : Collects (f h) (InspectedIn arena (role.each [h])) :=
  (hf h).congr (by simp)

lemma Collects.parts {m k : Except Error (List String)} {ps qs : List (Role × NodeHandle)}
    (hm : Collects m (InspectedIn arena ps)) (hk : Collects k (InspectedIn arena qs)) :
    Collects (AstOptimizer.union m k) (InspectedIn arena (ps ++ qs)) :=
  (hm.union hk).congr fun _ => (inspectedIn_append ps qs).symm

lemma Collects.name_parts {us : List String} {m : Except Error (List String)} {n : AstNode}
    (hn : arena.nodes[h]? = some n) (hus : ∀ x, x ∈ us ↔ role.reads n = true ∧ x ∈ n.names)
    (hm : Collects m (InspectedIn arena (role.parts n))) :
    Collects (AstOptimizer.union (Pure.pure us) m) (Inspected arena role h) := by
  refine ((pure us).union hm).congr fun x => ?_
  rw [inspected_iff hn, hus]

lemma collectExprVars_finds (fuel : ℕ) : Finds arena (collectExprVars arena fuel) .expression := by
  induction fuel with
  | zero => exact fun h => error _
  | succ fuel ih =>
    intro h
    refine get fun n hn => ?_
    cases n with
    | identifier ident =>
      refine (pure [ident]).congr fun x => ?_
      rw [inspected_iff hn]
      simp [Role.parts]
    | propertyAccess | binaryExpression | unaryExpression | functionCall | caseExpression
    | listComprehension | patternComprehension | existsSubquery | countSubquery | listLiteral
    | whereClause => exact at_unread hn rfl (ih.each _)
    | _ => exact at_unread hn rfl nothing

def patternRole (includeBindingVars : Bool) : Role :=
  if includeBindingVars then .writePattern else .matchPattern

lemma collectPathVars_finds (includeBindingVars : Bool) (fuel : ℕ) :
    Finds arena (collectPathVars arena includeBindingVars fuel) (patternRole includeBindingVars) := by
  induction fuel with
  | zero => exact fun h => error _
  | succ fuel ih =>
    intro h
    refine get fun n hn => ?_
    have hexpr : Finds arena (collectExprVars arena fuel) .expression := collectExprVars_finds fuel
    cases n with
    | nodePattern var labels predicates =>
      refine name_parts hn ?_ ?_
      · cases includeBindingVars <;> simp [patternRole]
      · cases includeBindingVars <;> exact hexpr.each predicates
    | edgePattern var labels direction minHops maxHops predicates targetNode =>
      refine name_parts hn ?_ ?_
      · cases includeBindingVars <;> simp [patternRole]
      · cases includeBindingVars <;> exact (hexpr.each predicates).parts (ih.each _)
    | pathChain pathVariable mode startNode edges =>
      refine name_parts hn ?_ ?_
      · cases includeBindingVars <;> simp [patternRole]
      · cases includeBindingVars <;> exact ih.each _
    | _ => cases includeBindingVars <;> exact at_unread hn rfl nothing

variable (fuel : ℕ)

lemma matchPaths_find : Finds arena (collectPathVars arena false fuel) .matchPattern :=
  collectPathVars_finds false fuel

lemma writtenPaths_find : Finds arena (collectPathVars arena true fuel) .writePattern :=
  collectPathVars_finds true fuel

lemma collectLoadCsv_finds : Finds arena (collectLoadCsv arena fuel) .loadCsv := by
  intro h
  refine get fun n hn => ?_
  cases n with
  | loadCsvClause url withHeaders aliasName =>
    refine ((collectExprVars_finds fuel url).union (pure [aliasName])).congr fun x => ?_
    rw [inspected_iff hn]
    simp [Role.parts, or_comm]
  | _ => exact at_unread hn rfl nothing

lemma collectUnwind_finds : Finds arena (collectUnwind arena fuel) .unwind := by
  intro h
  refine get fun n hn => ?_
  cases n with
  | unwindClause value aliasName =>
    refine ((collectExprVars_finds fuel value).union (pure [aliasName])).congr fun x => ?_
    rw [inspected_iff hn]
    simp [Role.parts, or_comm]
  | _ => exact at_unread hn rfl nothing

lemma collectLinear_finds : Finds arena (collectLinear arena fuel) .linear := by
  intro h
  refine get fun n hn => ?_
  cases n with
  | letClause var value =>
    refine name_parts hn ?_ ((collectExprVars_finds fuel).one value)
    simp
  | filterClause predicate => exact at_unread hn rfl ((collectExprVars_finds fuel).one predicate)
  | _ => exact at_unread hn rfl nothing

lemma collectWith_finds : Finds arena (collectWith arena fuel) .withClause := by
  intro h
  refine get fun n hn => ?_
  cases n with
  | withClause => exact at_unread hn rfl ((collectExprVars_finds fuel).each _)
  | _ => exact at_unread hn rfl nothing

lemma collectReturn_finds : Finds arena (collectReturn arena fuel) .returnClause := by
  intro h
  refine get fun n hn => ?_
  cases n with
  | returnClause => exact at_unread hn rfl ((collectExprVars_finds fuel).each _)
  | _ => exact at_unread hn rfl nothing

lemma collectMatch_finds : Finds arena (collectMatch arena fuel) .matching := by
  intro h
  refine get fun n hn => ?_
  cases n with
  | matchClause =>
    exact at_unread hn rfl
      (((collectExprVars_finds fuel).each _).parts ((matchPaths_find fuel).each _))
  | _ => exact at_unread hn rfl nothing

lemma collectSetItem_finds : Finds arena (collectSetItem arena fuel) .setItem := by
  intro h
  refine get fun n hn => ?_
  cases n with
  | setItem => exact at_unread hn rfl ((collectExprVars_finds fuel).each _)
  | _ => exact at_unread hn rfl nothing

lemma collectMutation_finds : Finds arena (collectMutation arena fuel) .mutation := by
  intro h
  refine get fun n hn => ?_
  cases n with
  | createClause => exact at_unread hn rfl ((writtenPaths_find fuel).each _)
  | mergeClause =>
    exact at_unread hn rfl
      (((writtenPaths_find fuel).one _).parts ((collectSetItem_finds fuel).each _))
  | setClause => exact at_unread hn rfl ((collectSetItem_finds fuel).each _)
  | deleteClause | removeClause => exact at_unread hn rfl ((collectExprVars_finds fuel).each _)
  | _ => exact at_unread hn rfl nothing

lemma collectUsedVariables_finds : Finds arena (collectUsedVariables arena fuel) .statement := by
  intro root
  refine get fun n hn => ?_
  cases n with
  | queryStatement =>
    refine at_unread hn rfl ?_
    refine ((collectLoadCsv_finds fuel).each _).parts ?_
    refine ((collectUnwind_finds fuel).each _).parts ?_
    refine ((collectLinear_finds fuel).each _).parts ?_
    refine ((collectWith_finds fuel).each _).parts ?_
    refine ((collectReturn_finds fuel).each _).parts ?_
    exact ((collectMatch_finds fuel).each _).parts ((collectMutation_finds fuel).each _)
  | _ => exact at_unread hn rfl nothing

end

end Voyager.AstOptimizer
