import Voyager.Emit.ClauseText

/-! Where the `WHERE`s of an openCypher statement stand among its keywords. -/

namespace Voyager

open Lib (Spelled)
open ClauseKind List Option

namespace Keyword

def isMatch : Keyword → Bool
  | match_ | optionalMatch => true
  | _ => false

def isBody : Keyword → Bool
  | orderBy | skip | limit => true
  | _ => false

def isOther : Keyword → Bool
  | match_ | optionalMatch | with_ | where_ => false
  | _ => true

end Keyword

/-- A `WHERE` stands behind the patterns of a `MATCH` or the items of a `WITH`. -/
structure WherePlaced (ks : List Keyword) : Prop where
  follows : ∀ before rest, ks = before ++ .where_ :: rest →
    ∃ earlier k, before = earlier ++ [k] ∧ (k.isMatch = true ∨ k = .with_)
  apart : ∀ before between rest, ks = before ++ .where_ :: between ++ .where_ :: rest →
    ∃ k ∈ between, k.isMatch = true ∨ k = .with_

/-- No part of a projection body stands behind the `WHERE`. -/
def BodyBeforeWhere (ks : List Keyword) : Prop :=
  ∀ before k rest, ks = before ++ .where_ :: k :: rest → k.isBody = false

inductive Phase
  | other
  | open_
deriving DecidableEq

namespace Phase

def next (p : Phase) : Keyword → Option Phase
  | .where_ => if p = open_ then some other else none
  | .match_ | .optionalMatch | .with_ => some open_
  | _ => some other

def read (p : Phase) (ks : List Keyword) : Option Phase := ks.foldlM next p

variable {p q r : Phase} {k : Keyword} {ks ls : List Keyword}

lemma read_append (p : Phase) (ks ls : List Keyword) : p.read (ks ++ ls) = (p.read ks).bind (·.read ls) :=
  foldlM_append

lemma read_cons (p : Phase) (k : Keyword) (ks : List Keyword) : p.read (k :: ks) = (p.next k).bind (·.read ks) :=
  foldlM_cons

lemma read_append_some (h : p.read (ks ++ ls) = some r) : ∃ q, p.read ks = some q ∧ q.read ls = some r := by
  rw [read_append] at h
  exact bind_eq_some_iff.mp h

lemma opens_of_next (h : p.next k = some .open_) : k.isMatch = true ∨ k = .with_ := by
  cases k with
  | match_ | optionalMatch => exact .inl rfl
  | with_ => exact .inr rfl
  | _ => cases p <;> exact absurd h (by decide)

lemma next_of_isOther (p : Phase) (h : k.isOther = true) : p.next k = some .other := by
  cases k with
  | match_ | optionalMatch | where_ | with_ => cases h
  | _ => rfl

lemma where_of_read (h : p.read (.where_ :: ks) = some r) : p = .open_ ∧ other.read ks = some r := by
  cases p with
  | other => cases h
  | open_ => exact ⟨rfl, h⟩

/-- What is read last before the patterns or items of a clause are open. -/
lemma opens_of_read (h : other.read ks = some .open_) : ∃ earlier k, ks = earlier ++ [k] ∧ (k.isMatch = true ∨ k = .with_) := by
  rcases eq_nil_or_concat' ks with rfl | ⟨earlier, k, rfl⟩
  · cases h
  · obtain ⟨q, -, hq⟩ := read_append_some h
    rw [read_cons] at hq
    obtain ⟨_, hnext, hrest⟩ := bind_eq_some_iff.mp hq
    cases hrest
    exact ⟨earlier, k, rfl, opens_of_next hnext⟩

theorem wherePlaced_of_read (h : other.read ks = some r) : WherePlaced ks where
  follows := by
    rintro before rest rfl
    obtain ⟨q, hbefore, hrest⟩ := read_append_some h
    obtain ⟨rfl, -⟩ := where_of_read hrest
    exact opens_of_read hbefore
  apart := by
    rintro before between rest rfl
    rw [append_assoc] at h
    obtain ⟨q, -, hrest⟩ := read_append_some h
    obtain ⟨-, hrest⟩ := where_of_read hrest
    obtain ⟨p, hbetween, hrest⟩ := read_append_some hrest
    obtain ⟨rfl, -⟩ := where_of_read hrest
    obtain ⟨earlier, k, rfl, hk⟩ := opens_of_read hbetween
    exact ⟨k, by simp, hk⟩

end Phase

open Phase

def Piece.keyword? : Piece → Option Keyword
  | .keyword k => some k
  | _ => none

def keywords (pieces : List Piece) : List Keyword := pieces.filterMap Piece.keyword?

namespace ClauseKind

def takesWhere : ClauseKind → AstNode → Bool
  | match_, .matchClause _ _ none => true
  | linear, .letClause .. => true
  | _, _ => false

def isFilter : ClauseKind → AstNode → Bool
  | linear, .filterClause _ => true
  | _, _ => false

end ClauseKind

section

variable (arena : QueryAstArena)

def ClauseRef.test (test : ClauseKind → AstNode → Bool) (clause : ClauseRef) : Bool :=
  arena.nodes[clause.2]?.elim false (test clause.1)

def FiltersPlaced : Bool → List ClauseRef → Prop
  | _, [] => True
  | takes, clause :: rest =>
    (clause.test arena ClauseKind.isFilter = true → takes = true) ∧
      FiltersPlaced (clause.test arena ClauseKind.takesWhere) rest

instance decidableFiltersPlaced : ∀ takes clauses, Decidable (FiltersPlaced arena takes clauses)
  | _, [] => .isTrue trivial
  | _, clause :: rest =>
    have := decidableFiltersPlaced (clause.test arena ClauseKind.takesWhere) rest
    inferInstanceAs (Decidable (_ ∧ _))

def StatementFiltersPlaced (root : NodeHandle) : Prop :=
  FiltersPlaced arena false (arena.nodes[root]?.elim [] AstNode.clauses)

end

section

variable {arena : QueryAstArena} {p : Phase}

@[simp] lemma keywords_nil : keywords [] = [] := rfl

@[simp] lemma keywords_append (us vs : List Piece) : keywords (us ++ vs) = keywords us ++ keywords vs :=
  filterMap_append

@[simp] lemma keywords_keyword (k : Keyword) (ps : List Piece) : keywords (.keyword k :: ps) = k :: keywords ps := rfl

@[simp] lemma keywords_text (s : String) (ps : List Piece) : keywords (.text s :: ps) = keywords ps := rfl

variable (h : NodeHandle)

@[simp] lemma keywords_path (ps : List Piece) : keywords (.path h :: ps) = keywords ps := rfl

lemma keywords_listed {α : Type} {f : α → List Piece} (hf : ∀ x, keywords (f x) = []) (xs : List α) :
    keywords (listed f xs) = [] := by
  induction xs with
  | nil => rfl
  | cons x xs ih =>
    cases xs with
    | nil => simp [listed, hf]
    | cons y ys =>
      rw [listed, map_cons, map_cons, intercalate_cons_cons]
      simpa [listed, hf] using ih

lemma keywords_setItem : keywords (setItemPieces arena h) = [] := by
  unfold setItemPieces
  split <;> rfl

lemma keywords_setList (keyword : String) (items : List NodeHandle) :
    keywords (setListPieces arena keyword items) = [] := by
  unfold setListPieces
  split
  · rfl
  · exact keywords_listed keywords_setItem items

lemma keywords_where (arena : QueryAstArena) (h : NodeHandle) :
    keywords (wherePieces arena h) = [] ∨ keywords (wherePieces arena h) = [.where_] := by
  unfold wherePieces
  split
  · exact .inr rfl
  · exact .inl rfl

lemma isBody_of_projection (orderBy : List (NodeHandle × Bool)) (skip limit : Option ℕ) :
    ∀ k ∈ keywords (orderByPieces orderBy ++ pagingPieces skip limit), k.isBody = true := by
  have hpaging : ∀ k ∈ keywords (pagingPieces skip limit), k.isBody = true := by
    cases skip <;> cases limit <;> simp [pagingPieces, Keyword.isBody]
  rw [keywords_append]
  intro k hk
  rcases mem_append.mp hk with hk | hk
  · unfold orderByPieces at hk
    split at hk
    · cases hk
    · rw [keywords_text, keywords_keyword, keywords_listed fun _ => rfl] at hk
      rw [mem_singleton.mp hk]
      rfl
  · exact hpaging k hk

lemma read_body {ks : List Keyword} (hks : ∀ k ∈ ks, k.isBody = true) (p : Phase) : ∃ q, p.read ks = some q := by
  induction ks generalizing p with
  | nil => exact ⟨p, rfl⟩
  | cons k ks ih =>
    obtain ⟨hk, hks⟩ := forall_mem_cons.mp hks
    have hother : k.isOther = true := by cases k <;> first | rfl | cases hk
    rw [read_cons, p.next_of_isOther hother]
    exact ih hks .other

def ReadsOn (arena : QueryAstArena) (p : Phase) (kind : ClauseKind) (n : AstNode) : Prop :=
  ∃ q, p.read (keywords (kind.pieces arena n)) = some q ∧
    (kind.takesWhere n = true → q = .open_)

lemma readsOn_of_no_keyword {kind : ClauseKind} {n : AstNode} (hpieces : keywords (kind.pieces arena n) = [])
    (htakes : kind.takesWhere n = false) : ReadsOn arena p kind n := by
  refine ⟨p, by rw [hpieces]; rfl, fun h => ?_⟩
  rw [htakes] at h
  cases h

lemma readsOn_of_keyword {kind : ClauseKind} {n : AstNode} {k : Keyword}
    (hpieces : keywords (kind.pieces arena n) = [k]) (hk : k.isOther = true)
    (htakes : kind.takesWhere n = false) : ReadsOn arena p kind n := by
  refine ⟨.other, ?_, fun h => ?_⟩
  · rw [hpieces, read_cons, p.next_of_isOther hk]
    rfl
  · rw [htakes] at h
    cases h

variable (n : AstNode)

lemma readsOn_match : ReadsOn arena p .match_ n := by
  cases n with
  | matchClause optional paths whereClause =>
    have hpatterns : ∀ ks, p.read ((if optional then .optionalMatch else .match_) :: ks) = open_.read ks := by
      intro ks
      rw [read_cons]
      cases optional <;> rfl
    unfold ReadsOn
    rw [pieces, keywords_keyword, keywords_append, keywords_listed fun _ => rfl, hpatterns]
    cases whereClause with
    | none => exact ⟨.open_, rfl, fun _ => rfl⟩
    | some condition =>
      rcases keywords_where arena condition with hw | hw
      · exact ⟨.open_, by rw [elim_some, hw]; rfl, fun _ => rfl⟩
      · exact ⟨.other, by rw [elim_some, hw]; rfl, nofun⟩
  | _ => exact readsOn_of_no_keyword rfl rfl

lemma readsOn_linear (hfilter : linear.isFilter n = true → p = .open_) : ReadsOn arena p .linear n := by
  cases n with
  | letClause => exact ⟨.open_, rfl, fun _ => rfl⟩
  | filterClause =>
    obtain rfl := hfilter rfl
    exact ⟨.other, rfl, nofun⟩
  | _ => exact readsOn_of_no_keyword rfl rfl

lemma readsOn_with : ReadsOn arena p .with_ n := by
  cases n with
  | withClause distinct projections orderBy skip limit whereClause =>
    have hitems : ∀ ks, p.read (.with_ :: ks) = open_.read ks := fun _ => rfl
    have hbody := read_body (isBody_of_projection orderBy skip limit)
    unfold ReadsOn
    rw [pieces, keywords_keyword, keywords_text, keywords_append, keywords_listed fun _ => rfl, hitems, nil_append,
      keywords_append]
    have hwhere : ∃ q, open_.read (keywords (whereClause.elim [] (wherePieces arena))) = some q := by
      cases whereClause with
      | none => exact ⟨.open_, rfl⟩
      | some condition =>
        rcases keywords_where arena condition with hw | hw
        · exact ⟨.open_, by rw [elim_some, hw]; rfl⟩
        · exact ⟨.other, by rw [elim_some, hw]; rfl⟩
    obtain ⟨q, hq⟩ := hwhere
    rw [read_append, hq]
    obtain ⟨r, hr⟩ := hbody q
    exact ⟨r, hr, nofun⟩
  | _ => exact readsOn_of_no_keyword rfl rfl

lemma readsOn_write : ReadsOn arena p .write n := by
  cases n with
  | createClause paths =>
    refine readsOn_of_keyword (k := .create) ?_ rfl rfl
    rw [pieces, keywords_keyword, keywords_listed fun _ => rfl]
  | mergeClause path onCreateSet onMatchSet =>
    refine readsOn_of_keyword (k := .merge) ?_ rfl rfl
    rw [pieces, keywords_keyword, keywords_path, keywords_append, keywords_setList, keywords_setList]
    rfl
  | setClause items =>
    refine readsOn_of_keyword (k := .set) ?_ rfl rfl
    rw [pieces, keywords_keyword, keywords_listed keywords_setItem]
  | deleteClause detach targets =>
    refine readsOn_of_keyword (k := if detach then .detachDelete else .delete) ?_ (by cases detach <;> rfl) rfl
    rw [pieces, keywords_keyword, keywords_listed fun _ => rfl]
  | removeClause items =>
    refine readsOn_of_keyword (k := .remove) ?_ rfl rfl
    rw [pieces, keywords_keyword, keywords_listed fun _ => rfl]
  | _ => exact readsOn_of_no_keyword rfl rfl

lemma readsOn (kind : ClauseKind) (n : AstNode) (hfilter : kind.isFilter n = true → p = .open_) :
    ReadsOn arena p kind n := by
  cases kind with
  | loadCsv =>
    cases n with
    | loadCsvClause => exact readsOn_of_keyword rfl rfl rfl
    | _ => exact readsOn_of_no_keyword rfl rfl
  | unwind =>
    cases n with
    | unwindClause => exact readsOn_of_keyword rfl rfl rfl
    | _ => exact readsOn_of_no_keyword rfl rfl
  | match_ => exact readsOn_match n
  | linear => exact readsOn_linear n hfilter
  | with_ => exact readsOn_with n
  | write => exact readsOn_write n

lemma read_clauses {clauses : List ClauseRef} {takes : Bool} (h : FiltersPlaced arena takes clauses)
    (hp : takes = true → p = .open_) (hasEmitted : Bool) :
    ∃ q, p.read (keywords (spacedPieces arena hasEmitted clauses)) = some q := by
  induction clauses generalizing p takes hasEmitted with
  | nil => exact ⟨p, rfl⟩
  | cons clause rest ih =>
    obtain ⟨hfilter, hrest⟩ := h
    have hspace : keywords (if hasEmitted then [Piece.text " "] else []) = [] := by cases hasEmitted <;> rfl
    simp only [spacedPieces, keywords_append, hspace, nil_append, read_append]
    cases hn : arena.nodes[clause.2]? with
    | none =>
      simp only [ClauseRef.test, hn, elim_none, clausePieces] at hrest ⊢
      exact ih hrest (by simp) true
    | some n =>
      simp only [ClauseRef.test, hn, elim_some] at hfilter hrest
      have hreads : ReadsOn arena p clause.1 n := readsOn clause.1 n fun hf => hp (hfilter hf)
      obtain ⟨q, hq, htakes⟩ := hreads
      rw [clausePieces, hn, elim_some, hq]
      exact ih hrest htakes true

lemma read_return (p : Phase) (h : NodeHandle) : ∃ q, p.read (keywords (returnPieces arena h)) = some q := by
  unfold returnPieces
  split
  · rw [keywords_text, keywords_keyword, read_cons, p.next_of_isOther rfl, keywords_text, keywords_append,
      keywords_listed fun _ => rfl]
    exact read_body (isBody_of_projection _ _ _) .other
  · exact ⟨p, rfl⟩

theorem read_statement {root : NodeHandle} (h : StatementFiltersPlaced arena root) (ignoreExecutionMode : Bool) :
    ∃ q, Phase.other.read (keywords (statementPieces arena ignoreExecutionMode root)) = some q := by
  unfold StatementFiltersPlaced at h
  unfold statementPieces
  cases hn : arena.nodes[root]? with
  | none => exact ⟨.other, rfl⟩
  | some n =>
    rw [hn, elim_some] at h
    simp only [keywords_text]
    cases n with
    | queryStatement mode loadCsv unwinds matches_ linearClauses withClauses mutations returnClause =>
      obtain ⟨q, hq⟩ := read_clauses h (by simp) false
      rw [keywords_append, read_append, hq]
      cases returnClause with
      | none => exact ⟨q, rfl⟩
      | some ret => exact read_return q ret
    | procedureCall mode ns procedure arguments yieldItems =>
      refine ⟨.other, ?_⟩
      dsimp only
      rw [keywords_append, keywords_keyword, keywords_text, keywords_listed fun _ => rfl]
      rfl
    | _ => exact ⟨.other, rfl⟩

end

theorem where_placed (arena : QueryAstArena) (fuel : ℕ) (root : NodeHandle) (e t : Emitter) (compiled : CompiledQuery)
    (hfilters : StatementFiltersPlaced arena root)
    (h : CypherEmitter.visitQuery arena (CypherEmitter.callees arena fuel) root e = .ok (compiled, t)) :
    Spelled (Piece.Spells (CypherEmitter.callees arena fuel)) (statementPieces arena e.ignoreExecutionMode root)
      compiled.statement ∧ WherePlaced (keywords (statementPieces arena e.ignoreExecutionMode root)) := by
  obtain ⟨q, hq⟩ := read_statement hfilters e.ignoreExecutionMode
  exact ⟨visitQuery_spelled (callees_follow .cypher arena fuel) h, wherePlaced_of_read hq⟩

namespace QueryBuilder

def builtKeywords (calls : List Call) : List Keyword := keywords (statementPieces (built calls).1 false (built calls).2)

def filterAfterLet : List Call :=
  [.match_, .node (some "n") [], .prop "n" "age", .let_ "age" 2, .ident "age", .param "least", .binaryExpr 5 .gt 6,
    .filter_ 7, .with_, .selectProperty "n" "name" none, .whereProperty "n" "name" .eq (.string "Ada"),
    .orderByProperty "n" "name" true, .limit 3, .return_, .selectProperty "n" "name" none]

theorem where_placed_filterAfterLet :
    compiledText filterAfterLet 9 = some ("MATCH (n) WITH *, n.age AS age WHERE age > $least " ++
      "WITH n.name WHERE n.name = $p0 ORDER BY n.name ASC LIMIT 3 RETURN n.name") ∧
      WherePlaced (builtKeywords filterAfterLet) := by
  have htext : compiledText filterAfterLet 9 = some ("MATCH (n) WITH *, n.age AS age WHERE age > $least " ++
      "WITH n.name WHERE n.name = $p0 ORDER BY n.name ASC LIMIT 3 RETURN n.name") := by
    decide +kernel
  obtain ⟨compiled, t, hrun, -⟩ := exists_of_compiledText htext
  refine ⟨htext, ?_⟩
  exact (where_placed (built filterAfterLet).1 9 (built filterAfterLet).2 Emitter.new t compiled
    (by unfold StatementFiltersPlaced; decide) hrun).2

def orderAfterWhere : List Call :=
  [.match_, .node (some "n") [], .with_, .selectProperty "n" "name" none, .whereProperty "n" "name" .eq (.string "Ada"),
    .orderByProperty "n" "name" true, .limit 3, .return_, .selectProperty "n" "name" none]

theorem where_misplaced :
    compiledText orderAfterWhere 9 =
        some "MATCH (n) WITH n.name WHERE n.name = $p0 ORDER BY n.name ASC LIMIT 3 RETURN n.name" ∧
      ¬BodyBeforeWhere (builtKeywords orderAfterWhere) := by
  refine ⟨by decide +kernel, fun h => ?_⟩
  have hbody := h [.match_, .with_] .orderBy [.limit, .return_] (by decide)
  cases hbody

end QueryBuilder

end Voyager
