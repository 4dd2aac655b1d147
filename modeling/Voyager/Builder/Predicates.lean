import Voyager.Builder.Flush

/-! Where a predicate that was given to the builder stands in the statement that is built. -/

namespace Voyager

open Relation List Bool

inductive ClausePlace
  | match_ (i : ℕ)
  | with_ (i : ℕ)
deriving DecidableEq

namespace QueryAstArena

def FiltersAt (a : QueryAstArena) (matches_ withClauses : List NodeHandle) (p : NodeHandle) : ClausePlace → Prop
  | .match_ i => ∃ h optional paths condition, matches_[i]? = some h ∧
      a.nodes[h]? = some (.matchClause optional paths condition) ∧ a.Filters condition p
  | .with_ i => ∃ h distinct items orderBy skip limit condition, withClauses[i]? = some h ∧
      a.nodes[h]? = some (.withClause distinct items orderBy skip limit condition) ∧ a.Filters condition p

def StatementFilters (a : QueryAstArena) (root : NodeHandle) (place : ClausePlace) (p : NodeHandle) : Prop :=
  ∃ mode loadCsv unwinds matches_ linear withClauses mutations ret,
    a.nodes[root]? = some (.queryStatement mode loadCsv unwinds matches_ linear withClauses mutations ret) ∧
      a.FiltersAt matches_ withClauses p place

lemma getElem?_prefix {α : Type*} {l l' : List α} {i : ℕ} {x : α} (h : l <+: l') (hi : l[i]? = some x) :
    l'[i]? = some x := by
  obtain ⟨hlt, rfl⟩ := List.getElem?_eq_some_iff.mp hi
  exact prefix_iff_getElem?.mp h i hlt

lemma FiltersAt.mono {a a' : QueryAstArena} {matches_ matches' withs withs' : List NodeHandle} {p : NodeHandle}
    {place : ClausePlace} (ha : a.Settles a') (hmatches : matches_ <+: matches') (hwiths : withs <+: withs')
    (h : a.FiltersAt matches_ withs p place) : a'.FiltersAt matches' withs' p place := by
  cases place with
  | match_ i =>
    obtain ⟨h, optional, paths, condition, hi, hnode, hfilters⟩ := h
    exact ⟨h, optional, paths, condition, getElem?_prefix hmatches hi, ha.node hnode rfl, hfilters.mono ha⟩
  | with_ i =>
    obtain ⟨h, distinct, items, orderBy, skip, limit, condition, hi, hnode, hfilters⟩ := h
    exact ⟨h, distinct, items, orderBy, skip, limit, condition, getElem?_prefix hwiths hi, ha.node hnode rfl,
      hfilters.mono ha⟩

end QueryAstArena

namespace QueryBuilder

variable {unicode : Unicode} {b b' : QueryBuilder} {p : NodeHandle} {place : ClausePlace}

def openClause (b : QueryBuilder) : Option ClausePlace :=
  if b.clauseMode = some .with_ then some (.with_ b.withClauses.length)
  else if b.matching && b.hasPath then some (.match_ b.matchClauses.length)
  else none

def Call.predicate (b : QueryBuilder) : Call → Option NodeHandle
  | wherePredicate predicate => some predicate
  | whereProperty var property op value =>
    let (left, b) := b.prop var property
    let (right, b) := b.literal value
    some (b.binaryExpr left op right).1
  | _ => none

def FilledWith (b : QueryBuilder) : Prop :=
  b.clauseMode = some .with_ → b.currentWherePredicates ≠ [] → b.projections ≠ []

instance (b : QueryBuilder) : Decidable b.FilledWith := inferInstanceAs (Decidable (_ → _ → _))

/-- Predicates are given while a `MATCH` has a pattern or a `WITH` is open, and no `WITH` with a filter is closed
before it projects something. -/
def FiltersOpen (unicode : Unicode) : List Call → Prop :=
  Along unicode (fun b c => ((c.predicate b).isSome → b.openClause.isSome) ∧ (c.closes b = true → b.FilledWith))
    FilledWith new

instance (unicode : Unicode) : DecidablePred (FiltersOpen unicode) := fun _ => inferInstanceAs (Decidable (Along ..))

/-- In the statement that is built every predicate is a term of the `WHERE` of the clause that was open. -/
def KeepsPredicates (unicode : Unicode) (calls : List Call) : Prop :=
  ∀ before c rest p, calls = before ++ c :: rest → c.predicate (after unicode new before) = some p →
    ∃ place, (after unicode new before).openClause = some place ∧
      (after unicode new calls).build.1.StatementFilters (after unicode new calls).build.2 place p

inductive Placed (b : QueryBuilder) (p : NodeHandle) (place : ClausePlace) : Prop
  | pending (hopen : b.openClause = some place) (hp : p ∈ b.currentWherePredicates)
  | written (h : b.arena.FiltersAt b.matchClauses b.withClauses p place)

lemma openClause_quiet (h : Quiet b b') (hopen : b.openClause = some place) : b'.openClause = some place := by
  unfold openClause matching at hopen ⊢
  rw [h.mode, h.withClauses, h.matchClauses]
  split_ifs at hopen with hwith hmatch
  · rw [if_pos hwith]
    exact hopen
  · rw [and_eq_true] at hmatch
    rw [if_neg hwith, if_pos (by rw [hmatch.1, h.hasPath hmatch.2]; rfl)]
    exact hopen

lemma Placed.quiet (h : Quiet b b') (hp : Placed b p place) : Placed b' p place := by
  cases hp with
  | pending hopen hp => exact .pending (openClause_quiet h hopen) (h.predicates hp)
  | written hp => exact .written (hp.mono h.arena (h.matchClauses ▸ prefix_rfl) (h.withClauses ▸ prefix_rfl))

lemma flush_written (hopen : b.openClause = some place) (hp : p ∈ b.currentWherePredicates) (hfilled : b.FilledWith) :
    b.flushCurrentPath.arena.FiltersAt b.flushCurrentPath.matchClauses b.flushCurrentPath.withClauses p place := by
  have hsome : b.currentWherePredicates ≠ [] := ne_nil_of_mem hp
  unfold openClause at hopen
  split_ifs at hopen with hwith hmatch
  · obtain ⟨more, condition, clause, hflush, hnode, hfilters⟩ := flush_with hwith (hfilled hwith hsome)
    cases hopen
    rw [hflush]
    exact ⟨clause, _, _, _, _, _, condition, getElem?_concat_length, hnode, hfilters p hp⟩
  · rw [and_eq_true] at hmatch
    cases hopen
    obtain ⟨paths, more, mode, var, edges, hclose, hpaths, -⟩ := closePath_spec b
    rw [flush_eq hwith, hclose]
    obtain ⟨more', condition, clause, hflush, hnode, hfilters⟩ :=
      flushPaths_match (b := { b with
        arena := ⟨b.arena.nodes ++ more⟩, currentMatchPaths := [], currentPathStart := none, currentPathMode := mode
        currentPathVariable := var, currentEdges := edges }) paths (hpaths.mpr hmatch.2) hmatch.1
    rw [hflush]
    refine .mono (keeps_flushSet _).arena (keeps_flushSet _).matchClauses (keeps_flushSet _).withClauses ?_
    exact ⟨clause, _, _, condition, getElem?_concat_length, hnode, hfilters p hp⟩

lemma Placed.flush (hp : Placed b p place) (hfilled : b.FilledWith) :
    b.flushCurrentPath.arena.FiltersAt b.flushCurrentPath.matchClauses b.flushCurrentPath.withClauses p place := by
  cases hp with
  | pending hopen hp => exact flush_written hopen hp hfilled
  | written hp => exact hp.mono (keeps_flush b).arena (keeps_flush b).matchClauses (keeps_flush b).withClauses

lemma Placed.closing (h : Closing b b') (hp : Placed b p place) (hfilled : b.FilledWith) : Placed b' p place := by
  obtain ⟨nodes, hkeeps⟩ := h.keeps
  -- The node pattern that closes a path is written before the clause is.
  have hextend : Quiet b { b with arena := ⟨b.arena.nodes ++ nodes⟩ } := (Move.extend nodes).quiet
  have hwritten := (hp.quiet hextend).flush hfilled
  exact .written (hwritten.mono hkeeps.arena hkeeps.matchClauses hkeeps.withClauses)

lemma Placed.run {c : Call} (hproc : c.isProcedure = false) (hp : Placed b p place)
    (hfilled : c.closes b = true → b.FilledWith) : Placed (c.run unicode b) p place := by
  cases hc : c.closes b with
  | false => exact hp.quiet (quiet_of_moves (Call.moves_of_not_closes unicode hproc hc))
  | true => exact hp.closing (Call.closing_of_closes unicode hproc hc) (hfilled hc)

lemma Placed.build (hp : Placed b p place) (hfilled : b.FilledWith) (hproc : b.procedureCall = none) :
    b.build.1.StatementFilters b.build.2 place p := by
  obtain ⟨more, ret, harena, hroot⟩ := build_spec hproc
  refine ⟨_, _, _, _, _, _, _, _, hroot, (hp.flush hfilled).mono ?_ prefix_rfl prefix_rfl⟩
  rw [harena]
  exact QueryAstArena.settles_append _ _

lemma placed_of_predicate {c : Call} (hc : c.predicate b = some p) (hopen : b.openClause = some place) :
    Placed (c.run unicode b) p place := by
  have hnot : c.closes b = false ∧ c.isProcedure = false := by
    cases c <;> simp_all [Call.predicate, Call.closes, Call.isProcedure]
  have hquiet := quiet_of_moves (Call.moves_of_not_closes unicode hnot.2 hnot.1)
  refine .pending (openClause_quiet hquiet hopen) ?_
  cases c with
  | wherePredicate predicate | whereProperty =>
    cases hc
    exact mem_append_right _ mem_cons_self
  | _ => cases hc

theorem predicates_kept (unicode : Unicode) (calls : List Call) (hproc : ∀ c ∈ calls, c.isProcedure = false)
    (hopen : FiltersOpen unicode calls) : KeepsPredicates unicode calls := by
  rintro before c rest p rfl hp
  obtain ⟨⟨hhere, -⟩, hlater⟩ := Along.append hopen
  obtain ⟨place, hplace⟩ := Option.isSome_iff_exists.mp (hhere (by rw [hp]; rfl))
  have hrest : ∀ d ∈ rest, d.isProcedure = false := fun d hd => hproc d (by simp [hd])
  obtain ⟨hend, hfilled⟩ := hlater.after (P := fun b => Placed b p place) hrest
    (fun _ _ hproc hstep hp => hp.run hproc hstep.2) (placed_of_predicate hp hplace)
  have hcall : (after unicode new (before ++ c :: rest)).procedureCall = none := procedureCall_after _ hproc
  rw [after_append] at hcall ⊢
  exact ⟨place, hplace, hend.build hfilled hcall⟩

/-- `MATCH (n) WHERE n.age > 18 WITH n.name AS name WHERE n.name = "Ada" RETURN name` -/
def filteredTwice : List Call :=
  [.match_, .node (some "n") [], .whereProperty "n" "age" .gt (.int64 18), .with_,
    .selectProperty "n" "name" (some "name"), .whereProperty "n" "name" .eq (.string "Ada"), .return_,
    .selectProperty "n" "name" none]

theorem predicates_kept_twice : KeepsPredicates .ascii filteredTwice :=
  predicates_kept .ascii filteredTwice (by decide) (by decide)

def filteredLate : List Call :=
  [.match_, .node (some "n") [], .return_, .whereProperty "n" "age" .gt (.int64 18), .selectProperty "n" "name" none]

def filteredEmpty : List Call :=
  [.match_, .node (some "n") [], .with_, .whereProperty "n" "age" .gt (.int64 18), .return_,
    .selectProperty "n" "name" none]

def isWhere : AstNode → Bool
  | .whereClause _ => true
  | _ => false

lemma exists_where_of_filters {a : QueryAstArena} {root : NodeHandle} (h : a.StatementFilters root place p) :
    a.nodes.any isWhere = true := by
  obtain ⟨_, _, _, _, _, _, _, _, -, h⟩ := h
  have hwhere : ∃ condition, a.Filters condition p := by
    cases place with
    | match_ =>
      obtain ⟨_, _, _, condition, -, -, h⟩ := h
      exact ⟨condition, h⟩
    | with_ =>
      obtain ⟨_, _, _, _, _, _, condition, -, -, h⟩ := h
      exact ⟨condition, h⟩
  obtain ⟨_, h, predicate, -, hnode, -⟩ := hwhere
  exact List.any_eq_true.mpr ⟨_, mem_of_getElem? hnode, rfl⟩

lemma not_keeps_of_no_where {calls rest : List Call} {c : Call} (before : List Call) (hsplit : calls = before ++ c :: rest)
    (hp : c.predicate (after unicode new before) = some p)
    (hno : (after unicode new calls).build.1.nodes.any isWhere = false) : ¬KeepsPredicates unicode calls := by
  intro hkeeps
  obtain ⟨place, -, hfilters⟩ := hkeeps before c rest p hsplit hp
  have hwhere := exists_where_of_filters hfilters
  rw [hno] at hwhere
  cases hwhere

theorem predicate_dropped :
    (∀ c ∈ filteredLate ++ filteredEmpty, c.isProcedure = false) ∧
      ((after .ascii new filteredLate).build.1.nodes.any isWhere = false ∧ ¬KeepsPredicates .ascii filteredLate) ∧
      ((after .ascii new filteredEmpty).build.1.nodes.any isWhere = false ∧ ¬KeepsPredicates .ascii filteredEmpty) := by
  have hlate : (after .ascii new filteredLate).build.1.nodes.any isWhere = false := by decide
  have hempty : (after .ascii new filteredEmpty).build.1.nodes.any isWhere = false := by decide
  refine ⟨by decide, ⟨hlate, ?_⟩, hempty, ?_⟩
  · exact not_keeps_of_no_where (filteredLate.take 3) rfl rfl hlate
  · exact not_keeps_of_no_where (filteredEmpty.take 3) rfl rfl hempty

end QueryBuilder

end Voyager
