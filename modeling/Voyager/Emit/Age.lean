import Voyager.Emit.ParameterIntegrity
import Voyager.Lib.Intercalate

/-! Apache AGE: the Cypher of the statement, dollar-quoted in a call of the `cypher` function. -/

namespace Voyager.AgeEmitter

open List Lib QueryAstArena

def columnName (arena : QueryAstArena) (proj : ProjectionItem) : Except Error String :=
  match proj.aliasName with
  | some a => pure a
  | none => do
    match ← arena.get proj.expression with
    | .propertyAccess _ property => pure (if property = "" then "entity" else property)
    | .identifier id => pure id
    | _ => pure "col"

def columnDefs (arena : QueryAstArena) (root : AstNode) : Except Error (List String) :=
  match root with
  | .queryStatement _ _ _ _ _ _ _ (some ret) => do
    match ← arena.get ret with
    | .returnClause _ projections _ _ _ => projections.mapM fun proj => do
        return (← columnName arena proj) ++ " agtype"
    | _ => pure []
  | _ => pure []

def executionMode : AstNode → ExecutionMode
  | .queryStatement mode _ _ _ _ _ _ _ => mode
  | .procedureCall mode _ _ _ _ => mode
  | _ => .normal

def modePrefix : ExecutionMode → String
  | .normal => ""
  | .explain => "EXPLAIN "
  | .profile | .explainAndProfile => "EXPLAIN ANALYZE "

def asClause (columnDefs : List String) : String :=
  if columnDefs.isEmpty then "AS (result agtype)" else "AS (" ++ ", ".intercalate columnDefs ++ ")"

variable (parameters : Parameters)

def paramsArg : String := if parameters.keys.isEmpty then "" else ", %s"

def opening (graphName : String) (mode : ExecutionMode) : String :=
  modePrefix mode ++ "SELECT * FROM cypher('" ++ graphName ++ "', "

def closing (columnDefs : List String) : String :=
  paramsArg parameters ++ ") " ++ asClause columnDefs

def cypher (arena : QueryAstArena) (fuel : ℕ) (root : NodeHandle) : Except Error CompiledQuery :=
  Prod.fst <$> Dialect.cypher.visitQuery arena fuel root Emitter.new.withoutExecutionMode

def visitQuery (graphName : String) (arena : QueryAstArena) (fuel : ℕ) (root : NodeHandle) :
    Except Error CompiledQuery := do
  let compiled ← cypher arena fuel root
  let rootNode ← arena.get root
  let columns ← columnDefs arena rootNode
  let mode := executionMode rootNode
  return {
    statement := opening graphName mode ++ "$$ " ++ compiled.statement ++ " $$" ++
      closing compiled.parameters columns
    parameters := compiled.parameters
    executionMode := mode
    columns := compiled.columns }

variable {root : NodeHandle}

variable {fuel : ℕ}

lemma visitQuery_ok {graphName : String} {arena : QueryAstArena} {age : CompiledQuery}
    (h : visitQuery graphName arena fuel root = .ok age) :
    ∃ compiled mode columns, cypher arena fuel root = .ok compiled ∧ age.parameters = compiled.parameters ∧
      age.statement = opening graphName mode ++ "$$ " ++ compiled.statement ++ " $$" ++
        closing compiled.parameters columns := by
  obtain ⟨compiled, hcypher, h⟩ := except_bind_ok.mp h
  obtain ⟨rootNode, -, h⟩ := except_bind_ok.mp h
  obtain ⟨columns, -, h⟩ := except_bind_ok.mp h
  obtain rfl := Except.ok.inj h
  exact ⟨compiled, executionMode rootNode, columns, hcypher, rfl, rfl⟩

variable {compiled : CompiledQuery}

section

variable {arena : QueryAstArena} (h : cypher arena fuel root = .ok compiled)

include h

lemma lookup_parameters (name : String) : compiled.parameters.lookup name =
      overlay (placeholders 0 (Dialect.cypher.walk arena fuel root)) name none := by
  unfold cypher at h
  cases hvisit : Dialect.cypher.visitQuery arena fuel root Emitter.new.withoutExecutionMode with
  | error e =>
    rw [hvisit] at h
    cases h
  | ok result =>
    obtain ⟨compiled', t⟩ := result
    rw [hvisit] at h
    obtain rfl := Except.ok.inj h
    obtain ⟨r, hr, hfinished⟩ := (callees_follow .cypher arena fuel).visitQuery root _ compiled' t hvisit
    rw [hfinished.parameters, hr.parameters]
    rfl

lemma mem_parameters {name : String} :
    name ∈ compiled.parameters ↔ name ∈ (placeholders 0 (Dialect.cypher.walk arena fuel root)).map Prod.fst := by
  rw [← AList.lookup_isSome, lookup_parameters h, isSome_overlay]

lemma parameters_eq_empty :
    compiled.parameters.keys = [] ↔ Lib.Mark.items (Dialect.cypher.walk arena fuel root) = [] := by
  rw [← placeholders_snd 0, map_eq_nil_iff, eq_nil_iff_forall_not_mem]
  simp only [← AList.mem_keys, mem_parameters h]
  rw [← eq_nil_iff_forall_not_mem, map_eq_nil_iff]

end

section

variable {arena : QueryAstArena} {projections : List ProjectionItem}

/-- The alias, or what the expression is called. -/
def requestedName (arena : QueryAstArena) (proj : ProjectionItem) : String :=
  match proj.aliasName with
  | some a => a
  | none =>
    match arena.nodes[proj.expression]? with
    | some (.propertyAccess _ property) => if property = "" then "entity" else property
    | some (.identifier id) => id
    | _ => "col"

lemma columnName_eq {proj : ProjectionItem} {name : String} (h : columnName arena proj = .ok name) :
    name = requestedName arena proj := by
  rw [columnName] at h
  rw [requestedName]
  cases haliasName : proj.aliasName with
  | some a =>
    rw [haliasName] at h
    cases h
    rfl
  | none =>
    rw [haliasName] at h
    obtain ⟨node, hnode, h⟩ := except_bind_ok.mp h
    simp only [get_eq_ok.mp hnode]
    cases node <;> cases h <;> rfl

lemma columns_ok {columns : List String}
    (hok : projections.mapM (fun proj => do return (← columnName arena proj) ++ " agtype") = Except.ok columns) :
    columns = projections.map fun proj => requestedName arena proj ++ " agtype" := by
  induction projections generalizing columns with
  | nil =>
    cases hok
    rfl
  | cons proj projections ih =>
    rw [mapM_cons] at hok
    obtain ⟨column, hcolumn, hok₁⟩ := except_bind_ok.mp hok
    obtain ⟨name, hname, hcolumn⟩ := except_bind_ok.mp hcolumn
    obtain ⟨columns', hcolumns, hok₂⟩ := except_bind_ok.mp hok₁
    cases hok₂
    cases hcolumn
    rw [ih hcolumns, columnName_eq hname, map_cons]

/-- The entries of a column list, each with the blank before it, as they are read up to the closing bracket. -/
def entries (text : String) : List (List Char) := (' ' :: text.toList.takeWhile (· ≠ ')')).splitOn ','

def entry (name : String) : List Char := ' ' :: (name ++ " agtype").toList

lemma entry_injective : Function.Injective entry := by
  intro a b h
  simpa [entry, String.toList_inj] using h

def PlainName (name : String) : Prop := ',' ∉ name.toList ∧ ')' ∉ name.toList

lemma mem_entry {c : Char} {name : String} (hc : c = ',' ∨ c = ')') : c ∈ entry name ↔ c ∈ name.toList := by
  have hsuffix : c ≠ ' ' ∧ c ∉ " agtype".toList := by
    rcases hc with rfl | rfl <;> decide
  rw [entry, String.toList_append, mem_cons, mem_append, or_iff_right hsuffix.1, or_iff_left hsuffix.2]

lemma plainName_of_mem_entries {text name : String} (h : entry name ∈ entries text) : PlainName name := by
  obtain ⟨hcomma, hsub⟩ := of_mem_splitOn h
  refine ⟨fun hmem => hcomma ((mem_entry (.inl rfl)).mpr hmem), fun hmem => ?_⟩
  have hbracket := hsub ((mem_entry (.inr rfl)).mpr hmem)
  rcases mem_cons.mp hbracket with hblank | hbracket
  · exact absurd hblank (by decide)
  · simpa using mem_takeWhile_imp hbracket

lemma cons_intercalate {names : List String} (h : names ≠ []) :
    ' ' :: (", ".intercalate (names.map (· ++ " agtype"))).toList = [','].intercalate (names.map entry) := by
  induction names with
  | nil => exact absurd rfl h
  | cons name names ih =>
    cases names with
    | nil => simp [entry]
    | cons name' names =>
      have ih := ih (cons_ne_nil _ _)
      simp only [map_cons, String.intercalate_cons_cons, String.toList_append, intercalate_cons_cons] at ih ⊢
      rw [← ih]
      simp [entry]

def listed (names : List String) : String :=
  if names = [] then "result agtype" else ", ".intercalate (names.map (· ++ " agtype"))

lemma asClause_eq (names : List String) : asClause (names.map (· ++ " agtype")) = "AS (" ++ listed names ++ ")" := by
  cases names with
  | nil => rfl
  | cons name names => rfl

lemma entries_listed_iff (names : List String) :
    entries (listed names) = names.map entry ↔ names ≠ [] ∧ ∀ name ∈ names, PlainName name := by
  constructor
  · intro h
    refine ⟨?_, fun name hname => plainName_of_mem_entries (h ▸ mem_map_of_mem hname)⟩
    rintro rfl
    exact absurd h (by decide)
  · rintro ⟨hne, hplain⟩
    rw [entries, listed, if_neg hne]
    have hjoined := cons_intercalate hne
    have hopen : ')' ∉ (", ".intercalate (names.map (· ++ " agtype"))).toList := by
      obtain ⟨name, names, rfl⟩ := exists_cons_of_ne_nil hne
      obtain ⟨hname, hnames⟩ := forall_mem_cons.mp hplain
      rw [map_cons, toList_intercalate_cons]
      simp only [flatMap_map, String.toList_append, mem_append, mem_flatMap, not_or, not_exists, not_and]
      exact ⟨⟨hname.2, by decide⟩, fun other hother => ⟨by decide, (hnames other hother).2, by decide⟩⟩
    rw [takeWhile_eq_self_iff.mpr (fun c hc => decide_eq_true (ne_of_mem_of_not_mem hc hopen)), hjoined]
    refine splitOn_intercalate ',' ?_ (by simpa using hne)
    intro _ hentry hcomma
    obtain ⟨name, hname, rfl⟩ := mem_map.mp hentry
    exact (hplain name hname).1 ((mem_entry (.inl rfl)).mp hcomma)

/-- Two projections differ in their expressions, `same` saying when those are the same, or in their aliases. -/
def Differ (same : NodeHandle → NodeHandle → Prop) (projections : List ProjectionItem) : Prop :=
  projections.Pairwise fun p q => ¬same p.expression q.expression ∨ p.aliasName ≠ q.aliasName

/-- The list has the entry of every projection in turn, and different ones for projections that differ, exactly where
there are projections, their names have no comma or bracket and projections that differ are called differently. -/
theorem visitQuery_columns {graphName : String} {fuel : ℕ} {root ret : NodeHandle} {age : CompiledQuery}
    {mode : ExecutionMode} {loadCsv : Option NodeHandle} {unwinds matches_ linear withs mutations : List NodeHandle}
    {distinct : Bool} {orderBy : List (NodeHandle × Bool)} {skip limit : Option ℕ}
    (same : NodeHandle → NodeHandle → Prop)
    (hok : visitQuery graphName arena fuel root = .ok age)
    (hroot : arena.nodes[root]? = some (.queryStatement mode loadCsv unwinds matches_ linear withs mutations (some ret)))
    (hret : arena.nodes[ret]? = some (.returnClause distinct projections orderBy skip limit)) :
    ∃ front list, age.statement = front ++ "AS (" ++ list ++ ")" ∧
      (entries list = (projections.map (requestedName arena)).map entry ∧
          (Differ same projections → (entries list).Nodup) ↔
        projections.map (requestedName arena) ≠ [] ∧ (∀ name ∈ projections.map (requestedName arena), PlainName name) ∧
          (Differ same projections → (projections.map (requestedName arena)).Nodup)) := by
  obtain ⟨compiled, -, hok₁⟩ := except_bind_ok.mp hok
  obtain ⟨rootNode, hget, hok₂⟩ := except_bind_ok.mp hok₁
  cases (get_eq_ok.mp hget).symm.trans hroot
  obtain ⟨columns, hcolumns, hok₃⟩ := except_bind_ok.mp hok₂
  obtain ⟨retNode, hgetRet, hcolumns⟩ := except_bind_ok.mp hcolumns
  cases (get_eq_ok.mp hgetRet).symm.trans hret
  obtain rfl := columns_ok hcolumns
  cases hok₃
  refine ⟨opening graphName mode ++ "$$ " ++ compiled.statement ++ " $$" ++ paramsArg compiled.parameters ++ ") ",
    listed (projections.map (requestedName arena)), ?_, ?_⟩
  · have hcolumns : projections.map (requestedName arena · ++ " agtype") =
        (projections.map (requestedName arena)).map (· ++ " agtype") := by simp
    simp only [closing, executionMode, hcolumns, asClause_eq, String.append_assoc]
  · rw [← and_assoc, ← entries_listed_iff]
    refine and_congr_right fun hentries => ?_
    rw [hentries, nodup_map_iff entry_injective]

end

/-- `MATCH (p), (q) RETURN p.name, q.name`, with an alias for the second projection or not. -/
def twoNames (secondAlias : Option String) : QueryAstArena :=
  ⟨[.nodePattern (some "p") none [], .nodePattern (some "q") none [], .matchClause false [0, 1] none,
    .propertyAccess 0 "name", .propertyAccess 1 "name",
    .returnClause false [⟨3, none, none⟩, ⟨4, secondAlias, none⟩] [] none none,
    .queryStatement .normal none [] [2] [] [] [] (some 5)]⟩

def statementOf (arena : QueryAstArena) (root : NodeHandle) : Option String :=
  (visitQuery "g" arena 9 root).toOption.map CompiledQuery.statement

theorem visitQuery_columns_aliased :
    ∃ age front list, visitQuery "g" (twoNames (some "other")) 9 6 = .ok age ∧
      age.statement = front ++ "AS (" ++ list ++ ")" ∧ entries list = [entry "name", entry "other"] ∧
      (entries list).Nodup := by
  have hstatement : (statementOf (twoNames (some "other")) 6).isSome = true := by decide +kernel
  cases hok : visitQuery "g" (twoNames (some "other")) 9 6 with
  | error e =>
    rw [statementOf, hok] at hstatement
    cases hstatement
  | ok age =>
    obtain ⟨front, list, htext, hlist⟩ := visitQuery_columns Eq hok rfl rfl
    obtain ⟨hentries, hnodup⟩ := hlist.mpr ⟨by simp, by unfold PlainName; decide, fun _ => by decide⟩
    exact ⟨age, front, list, rfl, htext, hentries, hnodup (by unfold Differ; decide)⟩

theorem visitQuery_columns_clash : statementOf (twoNames none) 6 =
    some "SELECT * FROM cypher('g', $$ MATCH (p), (q) RETURN p.name, q.name $$) AS (name agtype, name agtype)" := by
  decide +kernel

end Voyager.AgeEmitter
