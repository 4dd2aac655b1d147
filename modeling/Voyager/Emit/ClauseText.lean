import Voyager.Builder.Calls
import Voyager.Emit.ParameterIntegrity
import Voyager.Lib.Spelling

/-! The text of an openCypher statement as a sequence of clauses, and a clause as a sequence of keywords, expressions
and paths. -/

namespace Voyager

open Lib (Tracks Spelled spelling)
open CypherEmitter List Option

inductive Keyword
  | loadCsv
  | unwind
  | match_
  | optionalMatch
  | where_
  | with_
  | orderBy
  | skip
  | limit
  | create
  | merge
  | set
  | delete
  | detachDelete
  | remove
  | return_
  | call
deriving DecidableEq, Repr

def Keyword.text : Keyword → String
  | loadCsv => "LOAD CSV "
  | unwind => "UNWIND "
  | match_ => "MATCH "
  | optionalMatch => "OPTIONAL MATCH "
  | where_ => "WHERE "
  | with_ => "WITH "
  | orderBy => "ORDER BY "
  | skip => "SKIP "
  | limit => "LIMIT "
  | create => "CREATE "
  | merge => "MERGE "
  | set => "SET "
  | delete => "DELETE "
  | detachDelete => "DETACH DELETE "
  | remove => "REMOVE "
  | return_ => "RETURN "
  | call => "CALL "

inductive Piece
  | keyword (k : Keyword)
  | text (s : String)
  | expression (h : NodeHandle)
  | path (h : NodeHandle)
deriving DecidableEq

def Writes (m : EmitM Unit) (text : String) : Prop :=
  ∃ s t, m s = .ok ((), t) ∧ t.buffer = s.buffer ++ text

lemma Writes.eq {m : EmitM Unit} {text text' : String} (h : Writes m text)
    (hm : ∀ s, ∃ t, m s = .ok ((), t) ∧ t.buffer = s.buffer ++ text') : text = text' := by
  obtain ⟨s, t, hrun, htext⟩ := h
  obtain ⟨t', hrun', htext'⟩ := hm s
  obtain rfl : t = t' := congrArg Prod.snd (Except.ok.inj (hrun.symm.trans hrun'))
  exact (String.append_right_inj s.buffer).mp (htext.symm.trans htext')

inductive Piece.Spells (c : Callees) : Piece → String → Prop
  | keyword (k : Keyword) : Spells c (.keyword k) k.text
  | text (s : String) : Spells c (.text s) s
  | expression {h : NodeHandle} {s : String} : Writes (c.expression h false) s → Spells c (.expression h) s
  | path {h : NodeHandle} {s : String} : Writes (c.path h) s → Spells c (.path h) s

inductive ClauseKind
  | loadCsv
  | unwind
  | match_
  | linear
  | with_
  | write
deriving DecidableEq, Repr

abbrev ClauseRef := ClauseKind × NodeHandle

section

variable (arena : QueryAstArena)

def listed {α : Type} (f : α → List Piece) (xs : List α) : List Piece := [Piece.text ", "].intercalate (xs.map f)

def wherePieces (h : NodeHandle) : List Piece :=
  match arena.nodes[h]? with
  | some (.whereClause rootPredicate) => [.text " ", .keyword .where_, .expression rootPredicate]
  | _ => []

def projectionPieces (proj : ProjectionItem) : List Piece :=
  [.text (proj.aggregation.elim "" AggregationFunc.opening), .expression proj.expression,
    .text (proj.aggregation.elim "" fun _ => ")"), .text (proj.aliasName.elim "" (" AS " ++ ·))]

def orderByPieces (orderBy : List (NodeHandle × Bool)) : List Piece :=
  if orderBy.isEmpty then [] else
    .text " " :: .keyword .orderBy ::
      listed (fun item => [.expression item.1, .text (if item.2 then " ASC" else " DESC")]) orderBy

def pagingPieces (skip limit : Option ℕ) : List Piece :=
  skip.elim [] (fun s => [.text " ", .keyword .skip, .text (toString s)]) ++
    limit.elim [] fun l => [.text " ", .keyword .limit, .text (toString l)]

def setItemPieces (h : NodeHandle) : List Piece :=
  match arena.nodes[h]? with
  | some (.setItem target value isMerge) =>
    [.expression target, .text (if isMerge then " += " else " = "), .expression value]
  | _ => []

def setListPieces (keyword : String) (items : List NodeHandle) : List Piece :=
  if items.isEmpty then [] else .text keyword :: listed (setItemPieces arena) items

def ClauseKind.pieces : ClauseKind → AstNode → List Piece
  | .loadCsv, .loadCsvClause url withHeaders aliasName =>
    [.keyword .loadCsv, .text ((if withHeaders then "WITH HEADERS " else "") ++ "FROM "), .expression url,
      .text (" AS " ++ aliasName)]
  | .unwind, .unwindClause expression aliasName =>
    [.keyword .unwind, .expression expression, .text (" AS " ++ aliasName)]
  | .match_, .matchClause optional paths whereClause =>
    .keyword (if optional then .optionalMatch else .match_) ::
      (listed (fun p => [.path p]) paths ++ whereClause.elim [] (wherePieces arena))
  | .linear, .letClause var expression =>
    [.keyword .with_, .text "*, ", .expression expression, .text (" AS " ++ var)]
  | .linear, .filterClause predicate => [.keyword .where_, .expression predicate]
  | .with_, .withClause distinct projections orderBy skip limit whereClause =>
    .keyword .with_ :: .text (if distinct then "DISTINCT " else "") :: (listed projectionPieces projections ++
      (whereClause.elim [] (wherePieces arena) ++ (orderByPieces orderBy ++ pagingPieces skip limit)))
  | .write, .createClause paths => .keyword .create :: listed (fun p => [.path p]) paths
  | .write, .mergeClause path onCreateSet onMatchSet =>
    .keyword .merge :: .path path :: (setListPieces arena " ON CREATE SET " onCreateSet ++
      setListPieces arena " ON MATCH SET " onMatchSet)
  | .write, .setClause items => .keyword .set :: listed (setItemPieces arena) items
  | .write, .deleteClause detach targets =>
    .keyword (if detach then .detachDelete else .delete) :: listed (fun t => [.expression t]) targets
  | .write, .removeClause items => .keyword .remove :: listed (fun i => [.expression i]) items
  | _, _ => []

def clausePieces (clause : ClauseRef) : List Piece := arena.nodes[clause.2]?.elim [] (clause.1.pieces arena)

def returnPieces (h : NodeHandle) : List Piece :=
  match arena.nodes[h]? with
  | some (.returnClause distinct projections orderBy skip limit) =>
    .text " " :: .keyword .return_ :: .text (if distinct then "DISTINCT " else "") ::
      (listed projectionPieces projections ++ (orderByPieces orderBy ++ pagingPieces skip limit))
  | _ => []

def spacedPieces : Bool → List ClauseRef → List Piece
  | _, [] => []
  | hasEmitted, clause :: rest =>
    (if hasEmitted then [.text " "] else []) ++ clausePieces arena clause ++ spacedPieces true rest

end

namespace AstNode

def clauses : AstNode → List ClauseRef
  | queryStatement _ loadCsv unwinds matches_ linearClauses withClauses mutations _ =>
    loadCsv.toList.map (.loadCsv, ·) ++ unwinds.map (.unwind, ·) ++ matches_.map (.match_, ·) ++
      linearClauses.map (.linear, ·) ++ withClauses.map (.with_, ·) ++ mutations.map (.write, ·)
  | _ => []

def textMode : AstNode → ExecutionMode
  | queryStatement mode .. | procedureCall mode .. => mode
  | _ => .normal

end AstNode

def statementPieces (arena : QueryAstArena) (ignoreExecutionMode : Bool) (root : NodeHandle) : List Piece :=
  match arena.nodes[root]? with
  | none => []
  | some n =>
    .text (if ignoreExecutionMode then "" else n.textMode.keyword) ::
      match n with
      | .queryStatement _ _ _ _ _ _ _ returnClause =>
        spacedPieces arena false n.clauses ++ returnClause.elim [] (returnPieces arena)
      | .procedureCall _ ns procedure arguments yieldItems =>
        .keyword .call :: .text (ns.elim "" (· ++ ".") ++ procedure ++ "(") ::
          listed (fun a => [.expression a]) arguments ++
            [.text ")", .text (if yieldItems.isEmpty then "" else " YIELD " ++ ", ".intercalate yieldItems)]
      | _ => []

abbrev Puts {α : Type} (c : Callees) (m : EmitM α) (pieces : List Piece) : Prop :=
  Tracks (spelling (Piece.Spells c) Emitter.buffer) m pieces

variable {body : NodeHandle → EmitM Unit}

section

variable {c : Callees} {k : Walks} {arena : QueryAstArena}

variable {pieces : List Piece}

lemma pushStr_puts {s : String} (h : Spelled (Piece.Spells c) pieces s) : Puts c (pushStr s) pieces :=
  Tracks.modify fun _ => ⟨s, h, rfl⟩

lemma text_puts (s : String) : Puts c (pushStr s) [.text s] := pushStr_puts (.single (.text s))

variable (keyword : Keyword)

lemma keyword_puts : Puts c (pushStr keyword.text) [.keyword keyword] :=
  pushStr_puts (.single (.keyword keyword))

lemma keywords_puts (s : String) : Puts c (pushStr (keyword.text ++ s)) [.keyword keyword, .text s] :=
  pushStr_puts (.cons (.keyword keyword) (.single (.text s)))

lemma spaced_keyword_puts {s : String} (h : " " ++ keyword.text = s) :
    Puts c (pushStr s) [.text " ", .keyword keyword] := by
  rw [← h]
  exact pushStr_puts (.cons (.text " ") (.single (.keyword keyword)))

lemma spaced_keywords_puts {s : String} (h : " " ++ keyword.text = s) (more : String) :
    Puts c (pushStr (s ++ more)) [.text " ", .keyword keyword, .text more] := by
  rw [← h, String.append_assoc]
  exact pushStr_puts (.cons (.text " ") (.cons (.keyword keyword) (.single (.text more))))

lemma violation_puts (message : String) (got : AstNode) (pieces : List Piece) :
    Puts c (violation message got) pieces :=
  Tracks.throw _

lemma node_puts {α : Type} {h : NodeHandle} {f : AstNode → EmitM α}
    (hf : ∀ n, arena.nodes[h]? = some n → Puts c (f n) pieces) : Puts c (node arena h >>= f) pieces :=
  Tracks.lift_bind fun n hn => hf n (QueryAstArena.get_eq_ok.mp hn)

lemma node_puts_of {α : Type} {h : NodeHandle} {n : AstNode} {f : AstNode → EmitM α} (hn : arena.nodes[h]? = some n)
    (hf : Puts c (f n) pieces) : Puts c (node arena h >>= f) pieces := by
  apply node_puts
  intro n' hn'
  obtain rfl := Option.some.inj (hn.symm.trans hn')
  exact hf

lemma separated_puts {α : Type} {body : α → EmitM Unit} {f : α → List Piece} (hbody : ∀ x, Puts c (body x) (f x))
    (xs : List α) : Puts c (separated ", " body xs) (listed f xs) := by
  cases xs with
  | nil => exact Tracks.pure _
  | cons x xs =>
    have hrest : Puts c (xs.forM fun y => do pushStr ", "; body y) (xs.flatMap fun y => .text ", " :: f y) :=
      Tracks.forM (fun y => (text_puts ", ").bind fun _ => hbody y) xs
    have hlisted : listed f (x :: xs) = f x ++ xs.flatMap fun y => .text ", " :: f y := by
      clear hrest
      induction xs generalizing x with
      | nil => simp [listed]
      | cons y ys ih => rw [listed, map_cons, map_cons, intercalate_cons_cons]; simp_all [listed]
    rw [hlisted]
    exact (hbody x).bind fun _ => hrest

lemma spaced_puts {kind : ClauseKind} (hbody : ∀ h, Puts c (body h) (clausePieces arena (kind, h)))
    (hasEmitted : Bool) (hs : List NodeHandle) :
    Puts c (spaced body hasEmitted hs) (spacedPieces arena hasEmitted (hs.map (kind, ·))) := by
  induction hs generalizing hasEmitted with
  | nil => exact Tracks.pure _
  | cons h hs ih =>
    have hrest : Puts c (body h >>= fun _ => spaced body true hs)
        (clausePieces arena (kind, h) ++ spacedPieces arena true (hs.map (kind, ·))) :=
      (hbody h).bind fun _ => ih true
    cases hasEmitted with
    | false => exact hrest
    | true => exact (text_puts " ").bind fun _ => hrest

lemma spaced_result {hasEmitted r : Bool} {hs : List NodeHandle} {s t : Emitter}
    (h : spaced body hasEmitted hs s = .ok (r, t)) : r = (hasEmitted || !hs.isEmpty) := by
  induction hs generalizing hasEmitted s with
  | nil =>
    cases h
    simp
  | cons x hs ih =>
    have hrest : ∀ s, (body x >>= fun _ => spaced body true hs) s = .ok (r, t) → r = true := by
      intro s h
      obtain ⟨_, s', -, hrest⟩ := Lib.bind_ok.mp h
      simp [ih hrest]
    cases hasEmitted with
    | false => exact hrest s h
    | true =>
      obtain ⟨_, s', -, h⟩ := Lib.bind_ok.mp h
      exact hrest s' h

lemma clausePieces_of {kind : ClauseKind} {h : NodeHandle} {n : AstNode} (hn : arena.nodes[h]? = some n) :
    clausePieces arena (kind, h) = kind.pieces arena n := by
  simp [clausePieces, hn]

lemma spacedPieces_append (hasEmitted : Bool) (xs ys : List ClauseRef) : spacedPieces arena hasEmitted (xs ++ ys) =
      spacedPieces arena hasEmitted xs ++ spacedPieces arena (hasEmitted || !xs.isEmpty) ys := by
  induction xs generalizing hasEmitted with
  | nil => simp [spacedPieces]
  | cons x xs ih => simp [spacedPieces, ih]

end

section

variable {c : Callees} {k : Walks} (hc : c.Follow k) (arena : QueryAstArena)

include hc

lemma expression_puts (h : NodeHandle) : Puts c (c.expression h false) [.expression h] := by
  intro s a t hrun
  obtain ⟨text, htext, -⟩ := (hc.expression h false s a t hrun).buffer
  exact ⟨text, .single (.expression ⟨s, t, hrun, htext⟩), htext⟩

lemma path_puts (h : NodeHandle) : Puts c (c.path h) [.path h] := by
  intro s a t hrun
  obtain ⟨text, htext, -⟩ := (hc.path h s a t hrun).buffer
  exact ⟨text, .single (.path ⟨s, t, hrun, htext⟩), htext⟩

lemma emitWhere_puts (h : NodeHandle) : Puts c (emitWhere arena c h) (wherePieces arena h) := by
  apply node_puts
  intro n hn
  split
  · rw [wherePieces, hn]
    exact (spaced_keyword_puts .where_ (by decide)).bind fun _ => expression_puts hc _
  · exact violation_puts _ _ _

lemma projections_put (projections : List ProjectionItem) :
    Puts c (separated ", " (emitProjectionItem c) projections) (listed projectionPieces projections) := by
  apply separated_puts
  intro proj
  refine (text_puts _).bind fun _ => ?_
  refine (expression_puts hc _).bind fun _ => ?_
  exact (text_puts _).bind fun _ => text_puts _

lemma emitOrderBy_puts (orderBy : List (NodeHandle × Bool)) :
    Puts c (emitOrderBy c orderBy) (orderByPieces orderBy) := by
  cases orderBy with
  | nil => exact Tracks.pure _
  | cons item items =>
    refine (spaced_keyword_puts .orderBy (by decide)).bind fun _ => ?_
    apply separated_puts
    intro item
    exact (expression_puts hc item.1).bind fun _ => text_puts _

omit hc in
lemma emitPaging_puts (skip limit : Option ℕ) : Puts c (emitPaging wording skip limit) (pagingPieces skip limit) := by
  refine Tracks.bind ?_ fun _ => ?_
  · cases skip with
    | none => exact pushStr_puts .nil
    | some s => exact spaced_keywords_puts .skip (by decide) (toString s)
  · cases limit with
    | none => exact pushStr_puts .nil
    | some l => exact spaced_keywords_puts .limit (by decide) (toString l)

variable (h : NodeHandle)

lemma emitWith_puts : Puts c (emitWith wording arena c h) (clausePieces arena (.with_, h)) := by
  apply node_puts
  intro n hn
  split
  · rw [clausePieces_of hn]
    refine (keywords_puts .with_ _).bind fun _ => ?_
    refine (projections_put hc _).bind fun _ => ?_
    refine (Tracks.optionForM (emitWhere_puts hc arena) _).bind fun _ => ?_
    exact (emitOrderBy_puts hc _).bind fun _ => emitPaging_puts _ _
  · exact violation_puts _ _ _

lemma emitSetItem_puts : Puts c (emitSetItem arena c h) (setItemPieces arena h) := by
  apply node_puts
  intro n hn
  split
  · rw [setItemPieces, hn]
    refine (expression_puts hc _).bind fun _ => ?_
    exact (text_puts _).bind fun _ => expression_puts hc _
  · exact violation_puts _ _ _

lemma emitSetList_puts (keyword : String) (items : List NodeHandle) :
    Puts c (emitSetList arena c keyword items) (setListPieces arena keyword items) := by
  cases items with
  | nil => exact Tracks.pure _
  | cons item items => exact (text_puts keyword).bind fun _ => separated_puts (emitSetItem_puts hc arena) _

lemma emitMatch_puts : Puts c (emitMatch arena c h) (clausePieces arena (.match_, h)) := by
  apply node_puts
  intro n hn
  rw [clausePieces_of hn]
  cases n with
  | matchClause optional paths whereClause =>
    refine Tracks.bind (u := [_]) ?_ fun _ => (separated_puts (path_puts hc) _).bind fun _ =>
      Tracks.optionForM (emitWhere_puts hc arena) _
    cases optional with
    | false => exact keyword_puts .match_
    | true => exact keyword_puts .optionalMatch
  | _ => exact Tracks.pure _

lemma emitUnwind_puts : Puts c (emitUnwind arena c h) (clausePieces arena (.unwind, h)) := by
  apply node_puts
  intro n hn
  split
  · rw [clausePieces_of hn]
    refine (keyword_puts .unwind).bind fun _ => ?_
    exact (expression_puts hc _).bind fun _ => text_puts _
  · exact violation_puts _ _ _

lemma emitLoadCsv_puts : Puts c (emitLoadCsv arena c h) (clausePieces arena (.loadCsv, h)) := by
  apply node_puts
  intro n hn
  split
  · rw [clausePieces_of hn, String.append_assoc]
    refine (keywords_puts .loadCsv _).bind fun _ => ?_
    exact (expression_puts hc _).bind fun _ => text_puts _
  · exact violation_puts _ _ _

lemma emitLinear_puts : Puts c (emitLinear arena c h) (clausePieces arena (.linear, h)) := by
  apply node_puts
  intro n hn
  rw [clausePieces_of hn]
  cases n with
  | letClause var expression =>
    have hopening : Keyword.with_.text ++ "*, " = "WITH *, " := by decide
    dsimp only
    rw [← hopening]
    refine (keywords_puts .with_ "*, ").bind fun _ => ?_
    exact (expression_puts hc _).bind fun _ => text_puts _
  | filterClause predicate => exact (keyword_puts .where_).bind fun _ => expression_puts hc _
  | _ => exact Tracks.pure _

lemma emitMutation_puts : Puts c (emitMutation wording arena c (emitMerge arena c)
      (emitDelete arena c) h) (clausePieces arena (.write, h)) := by
  apply node_puts
  intro n hn
  cases n with
  | createClause paths =>
    apply node_puts_of hn
    rw [clausePieces_of hn]
    exact (keyword_puts .create).bind fun _ => separated_puts (path_puts hc) _
  | mergeClause path onCreateSet onMatchSet =>
    apply node_puts_of hn
    rw [clausePieces_of hn]
    refine (keyword_puts .merge).bind fun _ => (path_puts hc path).bind fun _ => ?_
    exact (emitSetList_puts hc arena _ _).bind fun _ => emitSetList_puts hc arena _ _
  | setClause items =>
    apply node_puts_of hn
    rw [clausePieces_of hn]
    exact (keyword_puts .set).bind fun _ => separated_puts (emitSetItem_puts hc arena) _
  | deleteClause detach targets =>
    apply node_puts_of hn
    rw [clausePieces_of hn]
    refine Tracks.bind (u := [_]) ?_ fun _ => separated_puts (expression_puts hc) _
    cases detach with
    | false => exact keyword_puts .delete
    | true => exact keyword_puts .detachDelete
  | removeClause items =>
    apply node_puts_of hn
    rw [clausePieces_of hn]
    exact (keyword_puts .remove).bind fun _ => separated_puts (expression_puts hc) _
  | _ => exact violation_puts _ _ _

lemma emitReturnClause_puts (returnClause : Option NodeHandle) :
    Puts c (emitReturnClause wording arena c returnClause)
      (returnClause.elim [] (returnPieces arena)) := by
  cases returnClause with
  | none => exact Tracks.pure _
  | some h =>
    apply node_puts
    intro n hn
    rw [elim_some, returnPieces, hn]
    cases n with
    | returnClause distinct projections orderBy skip limit =>
      refine Tracks.bind_silent ?_ fun _ => Tracks.pure _
      refine (spaced_keywords_puts .return_ (by decide) _).bind fun _ => ?_
      refine (projections_put hc _).bind fun _ => ?_
      exact (emitOrderBy_puts hc _).bind fun _ => emitPaging_puts _ _
    | _ => exact Tracks.pure _

lemma emitCall_puts (ns : Option String) (procedure : String) (arguments : List NodeHandle) (yieldItems : List String) :
    Puts c (emitCall c ns procedure arguments yieldItems)
      (.keyword .call :: .text (ns.elim "" (· ++ ".") ++ procedure ++ "(") ::
        listed (fun a => [.expression a]) arguments ++
          [.text ")", .text (if yieldItems.isEmpty then "" else " YIELD " ++ ", ".intercalate yieldItems)]) := by
  have hopening : Puts c (pushStr ("CALL " ++ ns.elim "" (· ++ ".") ++ procedure ++ "("))
      [.keyword .call, .text (ns.elim "" (· ++ ".") ++ procedure ++ "(")] := by
    simp only [String.append_assoc]
    exact keywords_puts .call _
  refine hopening.bind fun _ => ?_
  refine (separated_puts (expression_puts hc) arguments).bind fun _ => ?_
  exact (text_puts ")").bind fun _ => text_puts _

end

def Completes (c : Callees) (m : EmitM CompiledQuery) (pieces : List Piece) : Prop :=
  ∀ s compiled t, m s = .ok (compiled, t) →
    ∃ text, Spelled (Piece.Spells c) pieces text ∧ compiled.statement = s.buffer ++ text

namespace Completes

variable {c : Callees} {arena : QueryAstArena} {f : Bool → EmitM CompiledQuery} {us vs : List Piece}

lemma finish (mode : ExecutionMode) (columns : List ColumnMeta) : Completes c (Emitter.finish mode columns) [] := by
  intro s compiled t h
  cases h
  exact ⟨"", .nil, (String.append_empty).symm⟩

lemma bind {α : Type} {m : EmitM α} {f : α → EmitM CompiledQuery} (hm : Puts c m us)
    (hf : ∀ a s t, m s = .ok (a, t) → Completes c (f a) vs) : Completes c (m >>= f) (us ++ vs) := by
  intro s compiled t h
  obtain ⟨a, s', ha, ht⟩ := Lib.bind_ok.mp h
  obtain ⟨text, htext, hs'⟩ := hm s a s' ha
  obtain ⟨more, hmore, hstatement⟩ := hf a s s' ha s' compiled t ht
  exact ⟨text ++ more, htext.append hmore, by rw [hstatement, hs', String.append_assoc]⟩

lemma spaced {kind : ClauseKind} {hasEmitted : Bool} {hs : List NodeHandle} {rest : List ClauseRef}
    (hbody : ∀ h, Puts c (body h) (clausePieces arena (kind, h)))
    (hf : Completes c (f (hasEmitted || !hs.isEmpty)) (spacedPieces arena (hasEmitted || !hs.isEmpty) rest ++ vs)) :
    Completes c (Voyager.spaced body hasEmitted hs >>= f)
      (spacedPieces arena hasEmitted (hs.map (kind, ·) ++ rest) ++ vs) := by
  rw [spacedPieces_append, append_assoc]
  refine bind (spaced_puts hbody hasEmitted hs) fun r s t h => ?_
  rw [spaced_result h]
  simpa using hf

end Completes

open Completes

theorem visitQuery_spelled {c : Callees} {k : Walks} (hc : c.Follow k) {arena : QueryAstArena} {root : NodeHandle}
    {s t : Emitter} {compiled : CompiledQuery}
    (h : visitQuery arena c root s = .ok (compiled, t)) :
    Spelled (Piece.Spells c) (statementPieces arena s.ignoreExecutionMode root) compiled.statement := by
  obtain ⟨_, s', hclear, hrest⟩ := Lib.bind_ok.mp h
  cases hclear
  obtain ⟨n, s', hnode, hbody⟩ := Lib.bind_ok.mp hrest
  obtain ⟨hget, rfl⟩ := Lib.lift_ok.mp hnode
  have hn := QueryAstArena.get_eq_ok.mp hget
  rw [statementPieces, hn]
  -- What is left after the execution mode, which is the only text that depends on the emitter.
  have hmode : ∀ {mode : ExecutionMode} {rest : EmitM CompiledQuery} {pieces : List Piece},
      (emitExecutionMode mode >>= fun _ => rest) s.clear = .ok (compiled, t) → Completes c rest pieces →
      Spelled (Piece.Spells c) (.text (if s.ignoreExecutionMode then "" else mode.keyword) :: pieces)
        compiled.statement := by
    intro mode rest pieces hrun hrest
    obtain ⟨_, s', hs', hrun⟩ := Lib.bind_ok.mp hrun
    cases hs'
    obtain ⟨text, htext, hstatement⟩ := hrest _ _ _ hrun
    rw [hstatement]
    exact .append (.single (.text _)) htext
  cases n with
  | queryStatement mode loadCsv unwinds matches_ linearClauses withClauses mutations returnClause =>
    refine hmode hbody ?_
    have hcsv : Puts c (loadCsv.forM (emitLoadCsv arena c))
        (spacedPieces arena false (loadCsv.toList.map (.loadCsv, ·))) := by
      cases loadCsv with
      | none => exact Tracks.pure _
      | some h => simpa [spacedPieces] using emitLoadCsv_puts hc arena h
    have hsome : (false || !(loadCsv.toList.map (ClauseKind.loadCsv, ·)).isEmpty) = loadCsv.isSome := by
      cases loadCsv <;> rfl
    simp only [AstNode.clauses, append_assoc]
    rw [spacedPieces_append, hsome, append_assoc]
    apply bind hcsv
    rintro - - - -
    apply Completes.spaced (emitUnwind_puts hc arena)
    apply Completes.spaced (emitMatch_puts hc arena)
    apply Completes.spaced (emitLinear_puts hc arena)
    apply Completes.spaced (emitWith_puts hc arena)
    rw [← append_nil (mutations.map _)]
    apply Completes.spaced (emitMutation_puts hc arena)
    rw [spacedPieces, nil_append, ← append_nil (returnClause.elim _ _)]
    exact bind (emitReturnClause_puts hc arena returnClause) fun _ _ _ _ => finish mode _
  | procedureCall mode ns procedure arguments yieldItems =>
    refine hmode hbody ?_
    have := bind (emitCall_puts hc ns procedure arguments yieldItems) fun _ _ _ _ =>
      finish (c := c) mode (yieldItems.map fun item => ⟨.text item, none⟩)
    simpa using this
  | _ => cases hbody

namespace QueryBuilder

def built (calls : List Call) : QueryAstArena × NodeHandle := (after .ascii new calls).build

def compile (calls : List Call) (fuel : ℕ) : Except Error (CompiledQuery × Emitter) :=
  CypherEmitter.visitQuery (built calls).1 (CypherEmitter.callees (built calls).1 fuel) (built calls).2 Emitter.new

def compiledText (calls : List Call) (fuel : ℕ) : Option String := (compile calls fuel).toOption.map (·.1.statement)

lemma exists_of_compiledText {calls : List Call} {fuel : ℕ} {text : String} (h : compiledText calls fuel = some text) :
    ∃ compiled t, compile calls fuel = .ok (compiled, t) ∧ compiled.statement = text := by
  unfold compiledText at h
  cases hrun : compile calls fuel with
  | error e => simp [hrun, Except.toOption] at h
  | ok r => exact ⟨r.1, r.2, rfl, by simpa [hrun, Except.toOption] using h⟩

end QueryBuilder

end Voyager
