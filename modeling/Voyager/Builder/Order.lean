import Voyager.Builder.Flush
import Voyager.Emit.ClauseText

/-! The order of the clauses in the text of a statement, and the order in which they were opened. -/

namespace Voyager

open List Option Bool

open Lib (Spelled)

namespace QueryBuilder

def reading (b : QueryBuilder) : List ClauseRef :=
  b.unwindClauses.map (.unwind, ·) ++ b.matchClauses.map (.match_, ·) ++ b.linearClauses.map (.linear, ·) ++
    b.withClauses.map (.with_, ·)

/-- The clauses that a call adds. A call that opens a clause first writes the `MATCH` or `WITH` that was open. -/
def written (b b' : QueryBuilder) : List ClauseRef :=
  (b'.matchClauses.drop b.matchClauses.length).map (.match_, ·) ++
    (b'.withClauses.drop b.withClauses.length).map (.with_, ·) ++
    (b'.unwindClauses.drop b.unwindClauses.length).map (.unwind, ·) ++
    (b'.linearClauses.drop b.linearClauses.length).map (.linear, ·)

/-- The clauses in the order in which they are opened. One clause is open at a time. -/
def opened (unicode : Unicode) : QueryBuilder → List Call → List ClauseRef
  | b, [] => written b b.flushCurrentPath
  | b, c :: calls => written b (c.run unicode b) ++ opened unicode (c.run unicode b) calls

def WrittenInOrder (arena : QueryAstArena) (root : NodeHandle) (clauses : List ClauseRef) : Prop :=
  ∀ fuel e compiled t,
    CypherEmitter.visitQuery arena (CypherEmitter.callees arena fuel) root e = .ok (compiled, t) →
    ∃ mode loadCsv unwinds matches_ linear withClauses mutations ret,
      arena.nodes[root]? = some (.queryStatement mode loadCsv unwinds matches_ linear withClauses mutations ret) ∧
      Spelled (Piece.Spells (CypherEmitter.callees arena fuel))
        (.text (if e.ignoreExecutionMode then "" else mode.keyword) ::
          (spacedPieces arena false (loadCsv.toList.map (.loadCsv, ·) ++ clauses ++ mutations.map (.write, ·)) ++
            ret.elim [] (returnPieces arena)))
        compiled.statement

def KeepsOrder (unicode : Unicode) (calls : List Call) : Prop :=
  WrittenInOrder (after unicode new calls).build.1 (after unicode new calls).build.2 (opened unicode new calls)

def takesPatterns (b : QueryBuilder) : Bool := b.clauseMode != some .create && b.clauseMode != some .merge

def Call.rank (b : QueryBuilder) : Call → Option ℕ
  | unwind .. | unwindParam .. => some 0
  | match_ | optionalMatch => some 1
  | node .. | nodeExpr .. | importMatchPatterns .. => if b.takesPatterns then some 1 else none
  | let_ .. | filter_ .. => some 2
  | with_ | withClause .. => some 3
  | _ => none

/-- No call opens a clause, or adds a pattern to one, whose place is before `rank` or before a later one. -/
def InOrder (unicode : Unicode) : ℕ → QueryBuilder → List Call → Prop
  | _, _, [] => True
  | rank, b, c :: calls =>
    (∀ k ∈ c.rank b, rank ≤ k) ∧ InOrder unicode ((c.rank b).getD rank) (c.run unicode b) calls

instance decidableInOrder (unicode : Unicode) : ∀ rank b calls, Decidable (InOrder unicode rank b calls)
  | _, _, [] => .isTrue trivial
  | rank, b, c :: calls =>
    have := decidableInOrder unicode ((c.rank b).getD rank) (c.run unicode b) calls
    inferInstanceAs (Decidable (_ ∧ _))

variable {unicode : Unicode} {b b' : QueryBuilder} {c : Call} {r : ℕ}

def waiting (b : QueryBuilder) : Bool := b.hasPath && b.takesPatterns

structure Reached (r : ℕ) (b : QueryBuilder) : Prop where
  matches_ : r < 1 → b.matchClauses = []
  linear : r < 2 → b.linearClauses = []
  withs : r < 3 → b.withClauses = [] ∧ b.clauseMode ≠ some .with_
  waiting : b.waiting = true → r = 1

structure Adds (b b' : QueryBuilder) (rank : Option ℕ) (ms ws us ls : List NodeHandle) : Prop where
  matches_ : b'.matchClauses = b.matchClauses ++ ms
  withs : b'.withClauses = b.withClauses ++ ws
  unwinds : b'.unwindClauses = b.unwindClauses ++ us
  linear : b'.linearClauses = b.linearClauses ++ ls
  of_match : ms ≠ [] → b.waiting = true ∧ b.clauseMode ≠ some .with_
  of_with : ws ≠ [] → b.clauseMode = some .with_ ∨ rank = some 3
  of_unwind : us ≠ [] → rank = some 0
  of_linear : ls ≠ [] → rank = some 2
  of_mode : b'.clauseMode = some .with_ → b.clauseMode = some .with_ ∨ rank = some 3
  of_waiting : b'.waiting = true → rank = some 1 ∨ b.waiting = true ∧ (rank = none ∨ b.clauseMode = some .with_)

variable {rank : Option ℕ} {ms ws us ls : List NodeHandle}

lemma Adds.written_eq (h : Adds b b' rank ms ws us ls) :
    written b b' = ms.map (.match_, ·) ++ ws.map (.with_, ·) ++ us.map (.unwind, ·) ++ ls.map (.linear, ·) := by
  rw [written, h.matches_, h.withs, h.unwinds, h.linear]
  simp only [drop_left]

section

variable (h : Adds b b' rank ms ws us ls) (hr : Reached r b) (hrank : ∀ k ∈ rank, r ≤ k)

include h hr hrank

lemma Adds.reading_eq : b'.reading = b.reading ++ written b b' := by
  have hms : ms ≠ [] → b.linearClauses = [] ∧ b.withClauses = [] := by
    intro hne
    have hone := hr.waiting (h.of_match hne).1
    exact ⟨hr.linear (by omega), (hr.withs (by omega)).1⟩
  have hws : ws ≠ [] → us = [] ∧ ls = [] := by
    intro hne
    have hthree : r < 3 → rank = some 3 := fun hlt => (h.of_with hne).resolve_left (hr.withs hlt).2
    constructor
    · by_contra hus
      have hzero := h.of_unwind hus
      have := hrank 0 hzero
      rw [hthree (by omega)] at hzero
      cases hzero
    · by_contra hls
      have htwo := h.of_linear hls
      have := hrank 2 htwo
      rw [hthree (by omega)] at htwo
      cases htwo
  have hus : us ≠ [] → b.matchClauses = [] ∧ b.linearClauses = [] ∧ b.withClauses = [] ∧ ms = [] ∧ ls = [] := by
    intro hne
    have hzero := hrank 0 (h.of_unwind hne)
    refine ⟨hr.matches_ (by omega), hr.linear (by omega), (hr.withs (by omega)).1, ?_, ?_⟩
    · by_contra hms
      have := hr.waiting (h.of_match hms).1
      omega
    · by_contra hls
      have := (h.of_unwind hne).symm.trans (h.of_linear hls)
      cases this
  have hls : ls ≠ [] → b.withClauses = [] := by
    intro hne
    have htwo := hrank 2 (h.of_linear hne)
    exact (hr.withs (by omega)).1
  rw [h.written_eq, reading, reading, h.matches_, h.withs, h.unwinds, h.linear]
  by_cases hus' : us = []
  · subst hus'
    have hls' : ls = [] ∨ b.withClauses = [] ∧ ws = [] := by
      by_cases hnil : ls = []
      · exact .inl hnil
      · exact .inr ⟨hls hnil, by_contra fun hne => hnil (hws hne).2⟩
    by_cases hms' : ms = []
    · subst hms'
      rcases hls' with rfl | ⟨hw, rfl⟩
      · simp
      · simp [hw]
    · obtain ⟨hl, hw⟩ := hms hms'
      rcases hls' with rfl | ⟨-, rfl⟩ <;> simp [hl, hw]
  · obtain ⟨hm, hl, hw, rfl, rfl⟩ := hus hus'
    have hws' : ws = [] := by_contra fun hne => hus' (hws hne).1
    simp [hm, hl, hw, hws']

lemma Adds.reached : Reached (rank.getD r) b' := by
  have hle : r ≤ rank.getD r := by
    cases rank with
    | none => exact le_rfl
    | some k => exact hrank k rfl
  constructor
  · intro hlt
    have hms : ms = [] := by
      by_contra hne
      have := hr.waiting (h.of_match hne).1
      omega
    rw [h.matches_, hr.matches_ (by omega), hms]
    rfl
  · intro hlt
    have hls : ls = [] := by
      by_contra hne
      rw [h.of_linear hne, getD_some] at hlt
      omega
    rw [h.linear, hr.linear (by omega), hls]
    rfl
  · intro hlt
    obtain ⟨hwiths, hmode⟩ := hr.withs (by omega)
    have hthree : rank ≠ some 3 := by
      rintro rfl
      exact absurd hlt (lt_irrefl 3)
    constructor
    · have hws : ws = [] := by
        by_contra hne
        exact (h.of_with hne).elim hmode hthree
      rw [h.withs, hwiths, hws]
      rfl
    · intro hwith
      exact (h.of_mode hwith).elim hmode hthree
  · intro hwait
    rcases h.of_waiting hwait with rfl | ⟨hwait, rfl | hmode⟩
    · rfl
    · exact hr.waiting hwait
    · have := hr.waiting hwait
      exact absurd hmode (hr.withs (by omega)).2

end

lemma takesPatterns_of_matching (h : b.matching = true) : b.takesPatterns = true := by
  unfold matching at h
  unfold takesPatterns
  split at h <;> simp_all

lemma flush_lists (b : QueryBuilder) : ∃ ms ws, b.flushCurrentPath.matchClauses = b.matchClauses ++ ms ∧
      b.flushCurrentPath.withClauses = b.withClauses ++ ws ∧
      b.flushCurrentPath.unwindClauses = b.unwindClauses ∧ b.flushCurrentPath.linearClauses = b.linearClauses ∧
      (ms ≠ [] → b.waiting = true ∧ b.clauseMode ≠ some .with_) ∧ (ws ≠ [] → b.clauseMode = some .with_) ∧
      (b.flushCurrentPath.hasPath = true → b.hasPath = true ∧ b.clauseMode = some .with_) ∧
      b.flushCurrentPath.clauseMode = if b.clauseMode = some .with_ then none else b.clauseMode := by
  by_cases hmode : b.clauseMode = some .with_
  · rw [if_pos hmode]
    obtain ⟨more, clauses, hflush⟩ := flush_inside hmode
    rw [hflush]
    exact ⟨[], clauses, by simp, rfl, rfl, rfl, by simp, fun _ => hmode, fun h => ⟨h, hmode⟩, rfl⟩
  · rw [if_neg hmode]
    obtain ⟨_, _, ms, _, _, _, _, _, _, hflush, hms, -⟩ := flush_path hmode
    rw [hflush]
    refine ⟨ms, [], rfl, by simp, rfl, rfl, fun hne => ?_, by simp, nofun, rfl⟩
    obtain ⟨hpath, hmatching⟩ := hms hne
    refine ⟨?_, hmode⟩
    rw [waiting, hpath]
    exact takesPatterns_of_matching hmatching

lemma hasPath_of_waiting (h : b.waiting = true) : b.hasPath = true := by
  rw [waiting, and_eq_true] at h
  exact h.1

lemma adds_of_flush (ws' us ls : List NodeHandle) (hms : b'.matchClauses = b.flushCurrentPath.matchClauses)
    (hws : b'.withClauses = b.flushCurrentPath.withClauses ++ ws')
    (hus : b'.unwindClauses = b.flushCurrentPath.unwindClauses ++ us)
    (hls : b'.linearClauses = b.flushCurrentPath.linearClauses ++ ls)
    (hws' : ws' ≠ [] → rank = some 3) (hus' : us ≠ [] → rank = some 0) (hls' : ls ≠ [] → rank = some 2)
    (hmode : b'.clauseMode = some .with_ → b.flushCurrentPath.clauseMode = some .with_ ∨ rank = some 3)
    (hwait : b'.waiting = true → rank = some 1 ∨ b.flushCurrentPath.hasPath = true) :
    ∃ ms ws us ls, Adds b b' rank ms ws us ls := by
  obtain ⟨ms, ws, hm, hw, hu, hl, of_match, of_with, hpath, hclause⟩ := flush_lists b
  refine ⟨ms, ws ++ ws', us, ls, by rw [hms, hm], by rw [hws, hw, append_assoc], by rw [hus, hu], by rw [hls, hl],
    of_match, fun hne => ?_, hus', hls', fun hwith => ?_, fun hw => ?_⟩
  · by_cases hnil : ws = []
    · exact .inr (hws' (by simpa [hnil] using hne))
    · exact .inl (of_with hnil)
  · refine (hmode hwith).imp_left fun h => ?_
    rw [hclause] at h
    split at h
    · cases h
    · exact h
  · refine (hwait hw).imp_right fun h => ?_
    obtain ⟨hpath, hwith⟩ := hpath h
    refine ⟨?_, .inr hwith⟩
    rw [waiting, hpath, takesPatterns, hwith]
    rfl

lemma adds_of_closed (us ls : List NodeHandle) (hms : b'.matchClauses = b.flushCurrentPath.matchClauses)
    (hws : b'.withClauses = b.flushCurrentPath.withClauses)
    (hus : b'.unwindClauses = b.flushCurrentPath.unwindClauses ++ us)
    (hls : b'.linearClauses = b.flushCurrentPath.linearClauses ++ ls)
    (hus' : us ≠ [] → rank = some 0) (hls' : ls ≠ [] → rank = some 2)
    (hmode : b'.clauseMode = b.flushCurrentPath.clauseMode) (hpath : b'.hasPath = b.flushCurrentPath.hasPath) :
    ∃ ms ws us ls, Adds b b' rank ms ws us ls := by
  refine adds_of_flush [] us ls hms (by simpa using hws) hus hls (by simp) hus' hls' (fun h => .inl (hmode ▸ h)) ?_
  intro hwait
  exact .inr (hpath ▸ hasPath_of_waiting hwait)

lemma hasPath_pattern (b : QueryBuilder) : b.pattern.hasPath = b.hasPath := by
  unfold QueryBuilder.pattern hasPath
  rcases eq_none_or_eq_some b.currentPathStart with hstart | ⟨startNode, hstart⟩
  · rw [takePath_none hstart]
    simp
  · obtain ⟨path, more, _, _, htake, -⟩ := takePath_some hstart
    rw [htake]
    simp [hstart]

lemma hasPath_hops (min max : ℕ) (b : QueryBuilder) : (b.hops min max).hasPath = b.hasPath := by
  unfold hops
  split
  · rfl
  · split <;> rfl
  · rfl

def Call.isPattern : Call → Bool
  | node .. | nodeExpr .. | importMatchPatterns .. => true
  | _ => false

lemma Call.rank_of_isPattern (hc : c.isPattern = true) : c.rank b = if b.takesPatterns then some 1 else none := by
  cases c with
  | node | nodeExpr | importMatchPatterns => rfl
  | _ => cases hc

lemma Call.same_of_not_isPattern (unicode : Unicode) (hproc : c.isProcedure = false) (hc : c.closes b = false)
    (hp : c.isPattern = false) :
    (c.run unicode b).hasPath = b.hasPath ∧ c.rank b = none := by
  cases c with
  | unwind | unwindParam | loadCsv | match_ | optionalMatch | create | merge | delete | detachDelete | removeProperty
  | with_ | withClause | return_ | let_ | filter_ => cases hc
  | callProcedure | yieldItems => cases hproc
  | node | nodeExpr | importMatchPatterns => cases hp
  | hops min max => exact ⟨hasPath_hops min max b, rfl⟩
  | pattern => exact ⟨hasPath_pattern b, rfl⟩
  | _ => exact ⟨rfl, rfl⟩

lemma Call.waiting_of_isPattern (hc : c.isPattern = true) (hmode : b.takesPatterns = false → b'.takesPatterns = false)
    (hwait : b'.waiting = true) : c.rank b = some 1 := by
  rw [Call.rank_of_isPattern hc]
  cases htakes : b.takesPatterns with
  | true => rfl
  | false =>
    rw [waiting, hmode htakes, Bool.and_false] at hwait
    cases hwait

lemma Call.adds_of_not_closes (hproc : c.isProcedure = false) (hc : c.closes b = false) :
    Adds b (c.run unicode b) (c.rank b) [] [] [] [] := by
  have hquiet := quiet_of_moves (Call.moves_of_not_closes unicode hproc hc)
  have htakes : (c.run unicode b).takesPatterns = b.takesPatterns := by rw [takesPatterns, takesPatterns, hquiet.mode]
  refine ⟨by simp [hquiet.matchClauses], by simp [hquiet.withClauses], by simp [hquiet.unwinds], by simp [hquiet.linear],
    by simp, by simp, by simp, by simp, fun h => .inl (hquiet.mode ▸ h), fun hwait => ?_⟩
  cases hp : c.isPattern with
  | true => exact .inl (Call.waiting_of_isPattern hp (fun h => htakes ▸ h) hwait)
  | false =>
    obtain ⟨hpath, hrank⟩ := Call.same_of_not_isPattern unicode hproc hc hp
    refine .inr ⟨?_, .inl hrank⟩
    rwa [waiting, hpath, htakes] at hwait

lemma takesPatterns_flush (h : b.takesPatterns = false) : b.flushCurrentPath.takesPatterns = false := by
  obtain ⟨-, -, -, -, -, -, -, -, -, hclause⟩ := flush_lists b
  have hmode : b.clauseMode ≠ some .with_ := by
    intro hwith
    rw [takesPatterns, hwith] at h
    cases h
  rwa [takesPatterns, hclause, if_neg hmode]

lemma adds_of_node (var : Option String) (labels : Option LabelExpression) (hpending : b.pendingEdge = none)
    (hstart : b.currentPathStart.isSome) (hc : c.isPattern = true) :
    ∃ ms ws us ls, Adds b (b.nodePatternInternal var labels) (c.rank b) ms ws us ls := by
  rw [nodePattern_split hpending hstart]
  -- The node is written to the arena first, which leaves the clauses as they are.
  have hwait : ∀ s : QueryBuilder, s.waiting = true →
      s.clauseMode = (b.alloc (.nodePattern var labels [])).2.flushCurrentPath.clauseMode → c.rank b = some 1 := by
    intro s hwait hs
    refine Call.waiting_of_isPattern hc (fun htakes => ?_) hwait
    have hflush := takesPatterns_flush (b := (b.alloc (.nodePattern var labels [])).2) htakes
    rwa [takesPatterns, hs]
  obtain ⟨ms, ws, us, ls, h⟩ : ∃ ms ws us ls, Adds (b.alloc (.nodePattern var labels [])).2
      { (b.alloc (.nodePattern var labels [])).2.flushCurrentPath with currentPathStart := some b.arena.len }
      (c.rank b) ms ws us ls :=
    adds_of_flush [] [] [] rfl (by simp) (by simp) (by simp) (by simp) (by simp) (by simp) .inl
      fun h => .inl (hwait _ h rfl)
  exact ⟨ms, ws, us, ls, h.matches_, h.withs, h.unwinds, h.linear, h.of_match, h.of_with, h.of_unwind, h.of_linear,
    h.of_mode, h.of_waiting⟩

lemma exists_idents (names : List String) (b : QueryBuilder) :
    ∃ more, (b.idents names).2 = { b with arena := ⟨b.arena.nodes ++ more⟩ } := by
  induction names generalizing b with
  | nil => exact ⟨[], by simp [idents]⟩
  | cons name names ih =>
    obtain ⟨more, hmore⟩ := ih (b.ident name).2
    refine ⟨.identifier name :: more, ?_⟩
    simp only [idents, hmore]
    simp [ident, alloc, QueryAstArena.alloc]

lemma adds_of_delete (detach : Bool) (targets : List String) :
    ∃ ms ws us ls, Adds b (b.deleteWith detach targets) none ms ws us ls := by
  obtain ⟨more, hidents⟩ := exists_idents targets b.flushCurrentPath
  unfold deleteWith
  simp only [hidents]
  exact adds_of_closed [] [] rfl rfl (by simp; rfl) (by simp; rfl) (by simp) (by simp) rfl rfl

lemma importMatchPatterns_of_no_mode {other : QueryBuilder} {seen : Finset String} (hmode : b.clauseMode = none) :
    b.importMatchPatterns other seen =
      other.flushCurrentPath.matchClauses.foldl (importMatch other.flushCurrentPath.arena) (b.match_, seen) := by
  unfold importMatchPatterns
  simp only [hmode, isNone_none, if_true]

theorem Call.adds (unicode : Unicode) (hproc : c.isProcedure = false) :
    ∃ ms ws us ls, Adds b (c.run unicode b) (c.rank b) ms ws us ls := by
  cases hc : c.closes b with
  | false => exact ⟨[], [], [], [], Call.adds_of_not_closes hproc hc⟩
  | true =>
    cases c with
    | unwind | unwindParam => exact adds_of_closed [_] [] rfl rfl rfl (by simp; rfl) (fun _ => rfl) (by simp) rfl rfl
    | let_ | filter_ => exact adds_of_closed [] [_] rfl rfl (by simp; rfl) rfl (by simp) (fun _ => rfl) rfl rfl
    | loadCsv | return_ | removeProperty => exact adds_of_closed [] [] rfl rfl (by simp; rfl) (by simp; rfl) (by simp) (by simp) rfl rfl
    | delete targets => exact adds_of_delete false targets
    | detachDelete targets => exact adds_of_delete true targets
    | match_ | optionalMatch =>
      exact adds_of_flush [] [] [] rfl (by simp; rfl) (by simp; rfl) (by simp; rfl) (by simp) (by simp) (by simp)
        nofun fun _ => .inl rfl
    | create | merge =>
      exact adds_of_flush [] [] [] rfl (by simp; rfl) (by simp; rfl) (by simp; rfl) (by simp) (by simp) (by simp)
        nofun fun h => .inr (hasPath_of_waiting h :)
    | with_ =>
      exact adds_of_flush [] [] [] rfl (by simp; rfl) (by simp; rfl) (by simp; rfl) (by simp) (by simp) (by simp)
        (fun _ => .inr rfl) fun h => .inr (hasPath_of_waiting h :)
    | withClause =>
      exact adds_of_flush [_] [] [] rfl rfl (by simp; rfl) (by simp; rfl) (fun _ => rfl) (by simp) (by simp)
        (fun _ => .inr rfl) fun h => .inr (hasPath_of_waiting h :)
    | node | nodeExpr =>
      have hopen : b.pendingEdge.isNone = true ∧ b.currentPathStart.isSome = true := by simpa [closes] using hc
      exact adds_of_node _ _ (Option.isNone_iff_eq_none.mp hopen.1) hopen.2 rfl
    | importMatchPatterns other seen =>
      have hmode : b.clauseMode = none := Option.isNone_iff_eq_none.mp hc
      have hrank : rank b (.importMatchPatterns other seen) = some 1 := by simp [rank, takesPatterns, hmode]
      have hmoves : Relation.ReflTransGen Move b.match_ (b.importMatchPatterns other seen).1 := by
        rw [importMatchPatterns_of_no_mode hmode]
        exact moves_foldl moves_importMatch _ (b.match_, seen)
      have hquiet := quiet_of_moves hmoves
      refine adds_of_flush [] [] [] hquiet.matchClauses ?_ ?_ ?_ (by simp) (by simp) (by simp) ?_ fun _ => .inl hrank
      · rw [append_nil]
        exact hquiet.withClauses
      · rw [append_nil]
        exact hquiet.unwinds
      · rw [append_nil]
        exact hquiet.linear
      · intro hwith
        have : (b.importMatchPatterns other seen).1.clauseMode = some .match_ := hquiet.mode
        exact absurd (this.symm.trans hwith) (by simp)
    | _ => simp_all [closes, isProcedure]

lemma reading_flush (hr : Reached r b) : b.flushCurrentPath.reading = b.reading ++ written b b.flushCurrentPath := by
  obtain ⟨ms, ws, us, ls, h⟩ := Call.adds (b := b) (c := .return_) .ascii rfl
  exact h.reading_eq hr nofun

lemma reading_after {calls : List Call} (hproc : ∀ c ∈ calls, c.isProcedure = false) (hr : Reached r b)
    (horder : InOrder unicode r b calls) :
    (after unicode b calls).flushCurrentPath.reading = b.reading ++ opened unicode b calls := by
  induction calls generalizing b r with
  | nil => exact reading_flush hr
  | cons c calls ih =>
    obtain ⟨hrank, horder⟩ := horder
    obtain ⟨ms, ws, us, ls, h⟩ := Call.adds (b := b) unicode (hproc c mem_cons_self)
    have hrest := ih (fun d hd => hproc d (mem_cons_of_mem c hd)) (h.reached hr hrank) horder
    rw [opened, ← append_assoc, ← h.reading_eq hr hrank]
    exact hrest

lemma reached_new : Reached 0 new := ⟨fun _ => rfl, fun _ => rfl, fun _ => ⟨rfl, nofun⟩, nofun⟩

theorem clause_order_kept (unicode : Unicode) (calls : List Call) (hproc : ∀ c ∈ calls, c.isProcedure = false)
    (horder : InOrder unicode 0 new calls) : KeepsOrder unicode calls := by
  intro fuel e compiled t hrun
  have hreading := reading_after hproc reached_new horder
  have hcall : (after unicode new calls).procedureCall = none := procedureCall_after _ hproc
  generalize after unicode new calls = b at hrun hreading hcall ⊢
  obtain ⟨more, ret, -, hroot⟩ := build_spec hcall
  have hspelled : Spelled (Piece.Spells (CypherEmitter.callees b.build.1 fuel)) _ compiled.statement :=
    visitQuery_spelled (callees_follow .cypher b.build.1 fuel) hrun
  refine ⟨_, _, _, _, _, _, _, _, hroot, ?_⟩
  have hopened : opened unicode new calls = b.flushCurrentPath.reading := by
    rw [hreading]
    rfl
  rw [statementPieces, hroot] at hspelled
  rw [hopened]
  simpa [AstNode.clauses, AstNode.textMode, reading] using hspelled

def sortedClauses : List Call :=
  [.unwindParam "rows" "row", .match_, .node (some "a") [], .ident "row", .let_ "x" 3, .with_, .ident "a",
    .selectExpr 6 none, .return_, .selectExpr 6 none]

theorem clause_order_kept_sorted : KeepsOrder .ascii sortedClauses :=
  clause_order_kept .ascii sortedClauses (by decide) (by decide)

def matchAfterWith : List Call :=
  [.match_, .node (some "a") [], .with_, .ident "a", .selectExpr 2 none, .match_, .node (some "b") [], .return_,
    .selectExpr 2 none]

def matchAfterWithText : Piece → Option String
  | .keyword k => some k.text
  | .text s => some s
  | .expression h => if h = 2 then some "a" else none
  | .path h => if h = 0 then some "(a)" else if h = 4 then some "(b)" else none

lemma matchAfterWith_spells {p : Piece} {s : String} (hp : (matchAfterWithText p).isSome)
    (h : Piece.Spells (CypherEmitter.callees (built matchAfterWith).1 9) p s) :
    s = (matchAfterWithText p).getD "" := by
  cases h with
  | keyword | text => rfl
  | @expression h _ hw =>
    by_cases htwo : h = 2
    · subst htwo
      exact hw.eq fun s => ⟨_, rfl, rfl⟩
    · simp [matchAfterWithText, htwo] at hp
  | @path h _ hw =>
    by_cases hzero : h = 0
    · subst hzero
      refine hw.eq fun s => ⟨_, rfl, ?_⟩
      change s.buffer ++ ("(" ++ "a" ++ "") ++ ")" = s.buffer ++ "(a)"
      rw [String.append_assoc]
      rfl
    · by_cases hfour : h = 4
      · subst hfour
        refine hw.eq fun s => ⟨_, rfl, ?_⟩
        change s.buffer ++ ("(" ++ "b" ++ "") ++ ")" = s.buffer ++ "(b)"
        rw [String.append_assoc]
        rfl
      · simp [matchAfterWithText, hzero, hfour] at hp

theorem match_written_before_with :
    compiledText matchAfterWith 9 = some "MATCH (a) MATCH (b) WITH a RETURN a" ∧
      opened .ascii new matchAfterWith = [(.match_, 1), (.with_, 3), (.match_, 5)] ∧
      ¬KeepsOrder .ascii matchAfterWith := by
  have htext : compiledText matchAfterWith 9 = some "MATCH (a) MATCH (b) WITH a RETURN a" := by decide +kernel
  have hopened : opened .ascii new matchAfterWith = [(.match_, 1), (.with_, 3), (.match_, 5)] := by decide
  refine ⟨htext, hopened, fun h => ?_⟩
  obtain ⟨compiled, t, hrun, hstatement⟩ := exists_of_compiledText htext
  obtain ⟨_, _, _, _, _, _, _, _, hroot, hspelled⟩ := h 9 Emitter.new compiled t hrun
  obtain ⟨rfl, rfl, rfl, rfl, rfl, rfl, rfl, rfl⟩ := AstNode.queryStatement.inj (Option.some.inj hroot)
  rw [hopened] at hspelled
  refine absurd (hspelled.eq_join fun p hp s => matchAfterWith_spells (p := p) ?_) ?_
  · revert p
    decide
  · rw [hstatement]
    decide

end QueryBuilder

end Voyager
