import Voyager.Emit.SqlPgq
import Voyager.Lib.Tracking

/-! The columns of a `GRAPH_TABLE`: what the select list, GROUP BY and ORDER BY around it refer to. -/

namespace Voyager.SqlPgqEmitter

open List

open Lib (bind_ok)

section

variable (arena : QueryAstArena) (cols : List (String × String)) (proj : ProjectionItem) (idx : ℕ) (text : String)

def columnFor : Option String := (cols.find? fun col => col.1 = text).map Prod.snd

def freshName : String :=
  let leaf := getExprLeafName arena proj.expression
  let baseName := if leaf = "" then "col_" ++ toString idx else leaf
  if proj.aggregation.isSome then
    if cols.any fun col => col.2 = baseName then baseName ++ "_" ++ toString idx else baseName
  else proj.aliasName.getD baseName

def nameFor : String := (columnFor cols text).getD (freshName arena cols proj idx)

def addColumn : List (String × String) :=
  if (columnFor cols text).isSome then cols else cols ++ [(text, freshName arena cols proj idx)]

def outerItem (column : String) : String :=
  match proj.aggregation with
  | some func => aggregateOpening func ++ column ++ ")" ++ proj.aliasName.elim "" (" AS " ++ ·)
  | none => column

def groupKey (column : String) : List String :=
  if proj.aggregation.isSome then [] else [column]

def KeepsAlias (column : String) : Prop := proj.aggregation = none → ∀ a, proj.aliasName = some a → column = a

/-- What a projection asks of the columns before it: a column of its own is not called as one of them, and a column that
it shares is called as it asks. -/
def Apart : Prop :=
  match columnFor cols text with
  | some name => KeepsAlias proj name
  | none => freshName arena cols proj idx ∉ cols.map Prod.snd

def ColumnsApart : List (String × String) → List ((ProjectionItem × ℕ) × String) → Prop
  | _, [] => True
  | cols, ((proj, idx), text) :: rest =>
    Apart arena cols proj idx text ∧ ColumnsApart (addColumn arena cols proj idx text) rest

variable {arena cols proj idx text}

lemma add_eq (plan : AggregatePlan) :
    plan.add idx text (getExprLeafName arena proj.expression) proj =
      ⟨addColumn arena plan.innerColumns proj idx text,
        plan.outerSelectItems ++ [outerItem proj (nameFor arena plan.innerColumns proj idx text)],
        plan.groupByKeys ++ groupKey proj (nameFor arena plan.innerColumns proj idx text)⟩ := by
  cases hagg : proj.aggregation
  all_goals simp [AggregatePlan.add, hagg, addColumn, nameFor, freshName, columnFor, outerItem, groupKey]
  all_goals rfl

lemma addColumn_prefix : cols <+: addColumn arena cols proj idx text := by
  rw [addColumn]
  split_ifs
  · exact prefix_refl _
  · exact prefix_append _ _

lemma mem_addColumn : (text, nameFor arena cols proj idx text) ∈ addColumn arena cols proj idx text := by
  rw [nameFor, addColumn, columnFor]
  cases hfind : cols.find? fun col => col.1 = text with
  | none => simp
  | some col =>
    have htext : col.1 = text := by simpa using find?_some hfind
    simpa [← htext] using mem_of_find?_eq_some hfind

lemma keepsAlias_freshName : KeepsAlias proj (freshName arena cols proj idx) := by
  intro hagg a ha
  simp [freshName, hagg, ha]

lemma apart_iff : ((addColumn arena cols proj idx text).map Prod.snd).Nodup ∧
    KeepsAlias proj (nameFor arena cols proj idx text) ↔
      (cols.map Prod.snd).Nodup ∧ Apart arena cols proj idx text := by
  rw [addColumn, nameFor, Apart]
  cases columnFor cols text with
  | some name => simp
  | none =>
    simp only [Option.isSome_none, Bool.false_eq_true, if_false, Option.getD_none, keepsAlias_freshName, and_true,
      map_append, map_cons, map_nil]
    rw [← concat_eq_append, nodup_concat, and_comm]

end

section

variable {arena : QueryAstArena} {projections : List ProjectionItem}

lemma planAggregates_plan {c : Callees} {items : List (ProjectionItem × ℕ)} {e e' : Emitter} {texts : List String}
    (arena : QueryAstArena) (plan : AggregatePlan)
    (hrender : (items.mapM fun item => renderExpressionToString c item.1.expression) e = .ok (texts, e')) :
    ∃ plan' names, planAggregates arena c items plan e = .ok (plan', e') ∧ plan.innerColumns <+: plan'.innerColumns ∧
      Forall₂ (fun text name => (text, name) ∈ plan'.innerColumns) texts names ∧
      plan'.outerSelectItems = plan.outerSelectItems ++ zipWith (fun item name => outerItem item.1 name) items names ∧
      plan'.groupByKeys = plan.groupByKeys ++ (items.zip names).flatMap (fun pair => groupKey pair.1.1 pair.2) ∧
      ((plan'.innerColumns.map Prod.snd).Nodup ∧ (∀ pair ∈ items.zip names, KeepsAlias pair.1.1 pair.2) ↔
        (plan.innerColumns.map Prod.snd).Nodup ∧ ColumnsApart arena plan.innerColumns (items.zip texts)) := by
  induction items generalizing plan e texts with
  | nil =>
    cases hrender
    exact ⟨plan, [], rfl, prefix_refl _, .nil, by simp, by simp, by simp [ColumnsApart]⟩
  | cons item items ih =>
    obtain ⟨proj, idx⟩ := item
    rw [mapM_cons] at hrender
    obtain ⟨text, e₁, htext, hrender₁⟩ := bind_ok.mp hrender
    obtain ⟨texts', e₂, hrest, hrender₂⟩ := bind_ok.mp hrender₁
    cases hrender₂
    obtain ⟨plan', names, hplan, hgrown, hcolumns, houter, hgroup, hapart⟩ :=
      ih (plan.add idx text (getExprLeafName arena proj.expression) proj) hrest
    rw [add_eq] at hgrown houter hgroup hapart
    refine ⟨plan', nameFor arena plan.innerColumns proj idx text :: names, ?_, addColumn_prefix.trans hgrown,
      .cons (hgrown.subset mem_addColumn) hcolumns, ?_, ?_, ?_⟩
    · rw [planAggregates]
      exact bind_ok.mpr ⟨text, e₁, htext, hplan⟩
    · rw [houter, zipWith_cons_cons, append_assoc, singleton_append]
    · rw [hgroup, zip_cons_cons, flatMap_cons, append_assoc]
    · rw [zip_cons_cons, forall_mem_cons, and_left_comm, hapart, ← and_assoc, and_comm (a := KeepsAlias _ _), apart_iff,
        and_assoc]
      rfl

/-- Every item refers to a column of its expression and GROUP BY lists those of the items that are no aggregates. The
columns are called apart, and as the aliases ask, exactly where each projection is apart from those before it. -/
theorem planAggregates_columns (arena : QueryAstArena) {c : Callees} {e e' : Emitter} {texts : List String}
    (hrender : (projections.zipIdx.mapM fun item => renderExpressionToString c item.1.expression) e = .ok (texts, e')) :
    ∃ plan names, planAggregates arena c projections.zipIdx ⟨[], [], []⟩ e = .ok (plan, e') ∧
      Forall₂ (fun text name => (text, name) ∈ plan.innerColumns) texts names ∧
      plan.outerSelectItems = zipWith (fun item name => outerItem item.1 name) projections.zipIdx names ∧
      plan.groupByKeys = (projections.zipIdx.zip names).flatMap (fun pair => groupKey pair.1.1 pair.2) ∧
      ((plan.innerColumns.map Prod.snd).Nodup ∧
        (∀ pair ∈ projections.zipIdx.zip names, KeepsAlias pair.1.1 pair.2) ↔
          ColumnsApart arena [] (projections.zipIdx.zip texts)) := by
  obtain ⟨plan, names, hplan, -, hcolumns, houter, hgroup, hapart⟩ :=
    planAggregates_plan arena ⟨[], [], []⟩ hrender
  exact ⟨plan, names, hplan, hcolumns, houter, hgroup, by simpa using hapart⟩

def textOf (arena : QueryAstArena) (root : NodeHandle) : Option String :=
  (compile "g" arena 9 root).toOption.map CompiledQuery.statement

def counted (secondAlias : Option String) : QueryAstArena :=
  ⟨[.nodePattern (some "p") none [], .nodePattern (some "q") none [], .matchClause false [0, 1] none,
    .propertyAccess 0 "name", .propertyAccess 1 "name", .identifier "p",
    .returnClause false [⟨3, none, none⟩, ⟨4, secondAlias, none⟩, ⟨5, none, some .count⟩] [] none none,
    .queryStatement .normal none [] [2] [] [] [] (some 6)]⟩

theorem planAggregates_columns_aliased : ∃ plan e', planAggregates (counted (some "other"))
    (callees (counted (some "other")) 9)
    [(⟨3, none, none⟩, 0), (⟨4, some "other", none⟩, 1), (⟨5, none, some .count⟩, 2)] ⟨[], [], []⟩ Emitter.new =
      .ok (plan, e') ∧ (plan.innerColumns.map Prod.snd).Nodup := by
  have hrender : ∃ e', ([⟨3, none, none⟩, ⟨4, some "other", none⟩, ⟨5, none, some .count⟩] :
      List ProjectionItem).zipIdx.mapM (fun item =>
        renderExpressionToString (callees (counted (some "other")) 9) item.1.expression) Emitter.new =
          .ok (["p.name", "q.name", "p"], e') := ⟨_, rfl⟩
  obtain ⟨e', hrender⟩ := hrender
  obtain ⟨plan, _, hplan, -, -, -, hapart⟩ := planAggregates_columns (counted (some "other")) hrender
  have hclear : ColumnsApart (counted (some "other")) [] ([((⟨3, none, none⟩, 0), "p.name"),
      ((⟨4, some "other", none⟩, 1), "q.name"), ((⟨5, none, some .count⟩, 2), "p")]) :=
    ⟨nofun, by change _ ∉ _; decide, by change _ ∉ _; decide, trivial⟩
  exact ⟨plan, e', hplan, (hapart.mpr hclear).1⟩

theorem planAggregates_columns_clash : textOf (counted none) 7 =
    some ("SELECT name, name, COUNT(p) FROM GRAPH_TABLE (g MATCH (p), (q) COLUMNS (p.name AS name, q.name AS name, " ++
      "p AS p)) GROUP BY name, name") := by
  decide +kernel

def variableOf (arena : QueryAstArena) (h : NodeHandle) : Option String :=
  match arena.nodes[h]? with
  | some (.identifier id) => some id
  | some (.nodePattern var _ _) => var
  | _ => none

inductive SameExpression (arena : QueryAstArena) : NodeHandle → NodeHandle → Prop
  | refl (a) : SameExpression arena a a
  | var {a b x} : variableOf arena a = some x → variableOf arena b = some x → SameExpression arena a b
  | property {a b t t' p} : arena.nodes[a]? = some (.propertyAccess t p) → arena.nodes[b]? = some (.propertyAccess t' p) →
      SameExpression arena t t' → SameExpression arena a b

lemma sameExpression_of_match {fuel : ℕ} {a b : NodeHandle} (h : expressionsMatch arena fuel a b = true) :
    SameExpression arena a b := by
  induction fuel generalizing a b with
  | zero => cases h
  | succ fuel ih =>
    rw [expressionsMatch, Bool.or_eq_true, decide_eq_true_eq] at h
    rcases h with rfl | h
    · exact .refl a
    · split at h
      · rename_i t₁ p₁ t₂ p₂ ha hb
        rw [Bool.and_eq_true, decide_eq_true_eq] at h
        obtain ⟨rfl, h⟩ := h
        exact .property ha hb (ih h)
      all_goals
        first
        | cases h
        | rename_i ha hb
          rw [decide_eq_true_eq] at h
          subst h
          exact .var (by rw [variableOf, ha]) (by rw [variableOf, hb])

def outputName (arena : QueryAstArena) (proj : ProjectionItem) : Option String :=
  (projectedName arena proj).or (variableOf arena proj.expression)

lemma SameExpression.leafName {proj : ProjectionItem} {key : NodeHandle} (h : SameExpression arena proj.expression key)
    (hnone : projectedName arena proj = none) (hleaf : getExprLeafName arena key ≠ "") :
    outputName arena proj = some (getExprLeafName arena key) := by
  rw [outputName, hnone, Option.none_or]
  rw [projectedName] at hnone
  cases haliasName : proj.aliasName with
  | some a => simp only [haliasName, reduceCtorEq] at hnone
  | none =>
    simp only [haliasName] at hnone
    generalize proj.expression = a at h hnone
    cases h with
    | refl =>
      cases hkey : arena.nodes[key]? with
      | none => simp only [getExprLeafName, hkey, ne_eq, not_true] at hleaf
      | some node => cases node <;> simp_all [getExprLeafName, variableOf]
    | var ha hb =>
      rw [ha]
      cases hkey : arena.nodes[key]? with
      | none => simp only [getExprLeafName, hkey, ne_eq, not_true] at hleaf
      | some node => cases node <;> simp_all [getExprLeafName, variableOf]
    | property ha hb ht => simp only [ha, reduceCtorEq] at hnone

lemma node_of_variable {a : NodeHandle} {x : String} (h : variableOf arena a = some x) :
    arena.nodes[a]? = some (.identifier x) ∨
      ∃ labels properties, arena.nodes[a]? = some (.nodePattern (some x) labels properties) := by
  rw [variableOf] at h
  split at h
  · rename_i heq
    rw [Option.some_inj] at h
    exact .inl (h ▸ heq)
  · rename_i heq
    exact .inr ⟨_, _, h ▸ heq⟩
  · cases h

lemma exists_expressionsMatch_iff (arena : QueryAstArena) (a b : NodeHandle) :
    ∃ enough, ∀ fuel, enough ≤ fuel → (expressionsMatch arena fuel a b = true ↔ SameExpression arena a b) := by
  by_cases h : SameExpression arena a b
  · obtain ⟨enough, henough⟩ : ∃ enough, ∀ fuel, enough ≤ fuel → expressionsMatch arena fuel a b = true := by
      induction h with
      | refl a =>
        refine ⟨1, fun fuel hfuel => ?_⟩
        obtain ⟨fuel, rfl⟩ := Nat.exists_eq_succ_of_ne_zero (Nat.one_le_iff_ne_zero.mp hfuel)
        simp [expressionsMatch]
      | @var a b x ha hb =>
        refine ⟨1, fun fuel hfuel => ?_⟩
        obtain ⟨fuel, rfl⟩ := Nat.exists_eq_succ_of_ne_zero (Nat.one_le_iff_ne_zero.mp hfuel)
        rcases node_of_variable ha with ha | ⟨_, _, ha⟩ <;> rcases node_of_variable hb with hb | ⟨_, _, hb⟩ <;>
          simp [expressionsMatch, ha, hb]
      | property ha hb _ ih =>
        obtain ⟨enough, ih⟩ := ih
        refine ⟨enough + 1, fun fuel hfuel => ?_⟩
        obtain ⟨fuel, rfl⟩ := Nat.exists_eq_add_of_le' hfuel
        simp [expressionsMatch, ha, hb, ih (fuel + enough) (by omega)]
    exact ⟨enough, fun fuel hfuel => iff_of_true (henough fuel hfuel) h⟩
  · exact ⟨0, fun fuel _ => iff_of_false (fun hmatch => h (sameExpression_of_match hmatch)) h⟩

lemma exists_enough (arena : QueryAstArena) (key : NodeHandle) (projections : List ProjectionItem) :
    ∃ enough, ∀ fuel, enough ≤ fuel → ∀ proj ∈ projections,
      (expressionsMatch arena fuel proj.expression key = true ↔ SameExpression arena proj.expression key) := by
  induction projections with
  | nil => exact ⟨0, by simp⟩
  | cons proj projections ih =>
    obtain ⟨enough, henough⟩ := exists_expressionsMatch_iff arena proj.expression key
    obtain ⟨enough', henough'⟩ := ih
    exact ⟨max enough enough', fun fuel hfuel => forall_mem_cons.mpr
      ⟨henough fuel (le_of_max_le_left hfuel), henough' fuel (le_of_max_le_right hfuel)⟩⟩

/-- The projection whose name a key takes: the first that matches it and is given a name, else the first that matches. -/
def keyColumn (arena : QueryAstArena) (fuel : ℕ) (key : NodeHandle) (projections : List ProjectionItem) :
    Option ProjectionItem :=
  (projections.find? fun proj =>
    expressionsMatch arena fuel proj.expression key && (projectedName arena proj).isSome).or
      (projections.find? fun proj => expressionsMatch arena fuel proj.expression key)

/-- The column called so computes the key, whichever of several is meant. -/
def ComputesKey (arena : QueryAstArena) (key : NodeHandle) (projections : List ProjectionItem) (name : String) : Prop :=
  (∃ proj ∈ projections, outputName arena proj = some name ∧ SameExpression arena proj.expression key) ∧
    ∀ other ∈ projections, outputName arena other = some name → SameExpression arena other.expression key

section

variable {fuel : ℕ} {key : NodeHandle}

lemma resolve_eq : resolveProjectedColumnName arena fuel key projections =
    ((projections.find? fun proj =>
      expressionsMatch arena fuel proj.expression key && (projectedName arena proj).isSome).bind
        (projectedName arena)).getD (getExprLeafName arena key) := by
  rw [resolveProjectedColumnName]
  congr 1
  induction projections with
  | nil => rfl
  | cons proj projections ih =>
    rw [findSome?_cons, find?_cons]
    cases hmatch : expressionsMatch arena fuel proj.expression key <;> cases hname : projectedName arena proj <;>
      simp [hname, ih]

lemma keyColumn_spec {proj : ProjectionItem} (h : keyColumn arena fuel key projections = some proj) :
    proj ∈ projections ∧ expressionsMatch arena fuel proj.expression key = true ∧
      (resolveProjectedColumnName arena fuel key projections ≠ "" →
        outputName arena proj = some (resolveProjectedColumnName arena fuel key projections)) := by
  rw [keyColumn] at h
  cases hnamed : projections.find? fun proj =>
      expressionsMatch arena fuel proj.expression key && (projectedName arena proj).isSome with
  | some named =>
    rw [hnamed, Option.some_or, Option.some_inj] at h
    subst h
    obtain ⟨hmatch, hsome⟩ := Bool.and_eq_true_iff.mp (find?_some hnamed :)
    obtain ⟨name, hname⟩ := Option.isSome_iff_exists.mp hsome
    refine ⟨mem_of_find?_eq_some hnamed, hmatch, fun _ => ?_⟩
    rw [resolve_eq, hnamed, Option.bind_some, hname, outputName, hname, Option.some_or, Option.getD_some]
  | none =>
    rw [hnamed, Option.none_or] at h
    have hmatch : expressionsMatch arena fuel proj.expression key = true := (find?_some h :)
    have hproj := mem_of_find?_eq_some h
    refine ⟨hproj, hmatch, fun hprinted => ?_⟩
    have hunnamed := find?_eq_none.mp hnamed proj hproj
    rw [resolve_eq, hnamed, Option.bind_none, Option.getD_none] at hprinted ⊢
    exact (sameExpression_of_match hmatch).leafName (by simpa [hmatch] using hunnamed) hprinted

lemma exists_keyColumn {proj : ProjectionItem} (hproj : proj ∈ projections)
    (hmatch : expressionsMatch arena fuel proj.expression key = true) :
    ∃ column, keyColumn arena fuel key projections = some column := by
  have hsome : (projections.find? fun proj => expressionsMatch arena fuel proj.expression key).isSome = true :=
    find?_isSome.mpr ⟨proj, hproj, hmatch⟩
  exact Option.isSome_iff_exists.mp (by simp [keyColumn, hsome])

end

/-- A key that is printed as a name is printed as that of a column that computes it exactly where some projection
matches it and whatever is called as that projection matches it too. -/
theorem resolveProjectedColumnName_column (arena : QueryAstArena) (key : NodeHandle) (projections : List ProjectionItem) :
    ∃ enough, ∀ fuel, enough ≤ fuel → resolveProjectedColumnName arena fuel key projections ≠ "" →
      (ComputesKey arena key projections (resolveProjectedColumnName arena fuel key projections) ↔
        ∃ proj, keyColumn arena fuel key projections = some proj ∧ ∀ other ∈ projections,
          outputName arena other = outputName arena proj → expressionsMatch arena fuel other.expression key = true) := by
  obtain ⟨enough, henough⟩ := exists_enough arena key projections
  refine ⟨enough, fun fuel hfuel hprinted => ?_⟩
  have hmatches := henough fuel hfuel
  constructor
  · rintro ⟨⟨proj, hproj, -, hsame⟩, hothers⟩
    obtain ⟨column, hcolumn⟩ := exists_keyColumn hproj ((hmatches proj hproj).mpr hsame)
    refine ⟨column, hcolumn, fun other hother hname => (hmatches other hother).mpr (hothers other hother ?_)⟩
    rw [hname, (keyColumn_spec hcolumn).2.2 hprinted]
  · rintro ⟨proj, hcolumn, hothers⟩
    obtain ⟨hproj, hmatch, hname⟩ := keyColumn_spec hcolumn
    have hname := hname hprinted
    refine ⟨⟨proj, hproj, hname, sameExpression_of_match hmatch⟩, fun other hother ho => ?_⟩
    exact sameExpression_of_match (hothers other hother (ho.trans hname.symm))

end

def ordered (key : NodeHandle) : QueryAstArena :=
  ⟨[.nodePattern (some "p") none [], .nodePattern (some "q") none [], .matchClause false [0, 1] none,
    .propertyAccess 0 "name", .propertyAccess 1 "name",
    .returnClause false [⟨4, none, none⟩] [(key, true)] none none,
    .queryStatement .normal none [] [2] [] [] [] (some 5)]⟩

theorem resolveProjectedColumnName_column_own : ∃ fuel,
    resolveProjectedColumnName (ordered 4) fuel 4 [⟨4, none, none⟩] = "name" ∧
      ComputesKey (ordered 4) 4 [⟨4, none, none⟩] "name" := by
  obtain ⟨enough, h⟩ := resolveProjectedColumnName_column (ordered 4) 4 [⟨4, none, none⟩]
  have hmatch : expressionsMatch (ordered 4) (enough + 1) 4 4 = true := by simp [expressionsMatch]
  have hprojected : projectedName (ordered 4) ⟨4, none, none⟩ = some "name" := rfl
  have hname : resolveProjectedColumnName (ordered 4) (enough + 1) 4 [⟨4, none, none⟩] = "name" := by
    simp [resolveProjectedColumnName, hmatch, hprojected]
  have hcolumn : keyColumn (ordered 4) (enough + 1) 4 [⟨4, none, none⟩] = some ⟨4, none, none⟩ := by
    simp [keyColumn, hmatch, hprojected]
  refine ⟨enough + 1, hname, hname ▸ (h _ (Nat.le_succ _) (by simp [hname])).mpr ⟨_, hcolumn, ?_⟩⟩
  simp [hmatch]

theorem resolveProjectedColumnName_column_other : textOf (ordered 3) 6 =
    some "SELECT * FROM GRAPH_TABLE (g MATCH (p), (q) COLUMNS (q.name)) ORDER BY name ASC" := by
  decide +kernel

end Voyager.SqlPgqEmitter
