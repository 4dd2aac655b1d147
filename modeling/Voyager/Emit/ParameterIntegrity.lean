import Voyager.Emit.Dialects

/-! Which emissions bind each placeholder to the literal it was written for. -/

namespace Voyager

open Lib (Mark Woven)

inductive Dialect
  | cypher | isoGql
deriving DecidableEq

variable (d : Dialect) (arena : QueryAstArena)

namespace Dialect

def callees : Dialect → QueryAstArena → ℕ → Callees
  | cypher => CypherEmitter.callees
  | isoGql => IsoGqlEmitter.callees

def loadsCsv : Dialect → Bool
  | cypher => true
  | isoGql => false

def visitQuery (fuel : ℕ) (root : NodeHandle) : EmitM CompiledQuery :=
  (d.callees arena fuel).visitQuery root

def walk (fuel : ℕ) (root : NodeHandle) : List Event :=
  (walks d.loadsCsv arena fuel).statement root

end Dialect

lemma exhausted_follow (k : Walks) : Callees.exhausted.Follow k where
  expression _ _ := Lib.Tracks.throw _
  path _ := Lib.Tracks.throw _
  visitQuery h := by
    intro s compiled t hvisit
    cases hvisit

lemma callees_follow (fuel : ℕ) : (d.callees arena fuel).Follow (walks d.loadsCsv arena fuel) := by
  induction fuel with
  | zero => cases d <;> exact exhausted_follow _
  | succ fuel ih =>
    cases d with
    | cypher =>
      exact ⟨emitExpression_follows ih _ arena, CypherEmitter.emitPath_follows ih arena,
        CypherEmitter.visitQuery_compiles ih arena⟩
    | isoGql =>
      exact ⟨emitExpression_follows ih _ arena, IsoGqlEmitter.emitPath_follows ih arena,
        IsoGqlEmitter.visitQuery_compiles ih arena⟩

structure ParameterIntegrity (compiled : CompiledQuery) (written : List (String × LiteralValue)) : Prop where
  distinct : (written.map Prod.fst).Nodup
  bound : ∀ p ∈ written, compiled.parameters.lookup p.1 = some p.2

/-- Wherever a nested statement begins, no literal has come before it or none comes from there on. -/
def NestedApart (events : List Event) : Prop := Mark.Fresh events

lemma placeholders_fst (n : ℕ) (events : List Event) :
    (placeholders n events).map Prod.fst = ((Mark.numbering n events).map Prod.fst).map placeholderName := by
  simp [placeholders]

lemma placeholders_snd (n : ℕ) (events : List Event) : (placeholders n events).map Prod.snd = Mark.items events := by
  rw [← Mark.numbering_map_snd events n, placeholders, List.map_map]
  rfl

lemma placeholders_nodup_iff (events : List Event) :
    ((placeholders 0 events).map Prod.fst).Nodup ↔ NestedApart events := by
  rw [placeholders_fst, List.nodup_map_iff placeholderName_injective]
  exact Mark.nodup_numbering_iff

theorem parameterIntegrity_iff (d : Dialect) (arena : QueryAstArena) (fuel : ℕ) (root : NodeHandle)
    (e t : Emitter) (compiled : CompiledQuery) (h : d.visitQuery arena fuel root e = .ok (compiled, t)) :
    t.written.map Prod.snd = Mark.items (d.walk arena fuel root) ∧
    Woven (t.written.map ("$" ++ ·.1)) compiled.statement ∧
    (ParameterIntegrity compiled t.written ↔ NestedApart (d.walk arena fuel root)) := by
  obtain ⟨r, hr, hfinished⟩ := (callees_follow d arena fuel).visitQuery root e compiled t h
  have hwritten : t.written = placeholders 0 (d.walk arena fuel root) := by
    rw [hfinished.written, hr.written]
    rfl
  have hbound : ∀ name, compiled.parameters.lookup name = Lib.overlay t.written name none := by
    intro name
    rw [hfinished.parameters, hr.parameters, hwritten]
    rfl
  refine ⟨by rw [hwritten, placeholders_snd], ?_, ?_⟩
  · obtain ⟨text, htext, hwoven⟩ := hr.buffer
    rw [hfinished.statement, htext, hwritten]
    exact hwoven.gap_append _
  · rw [← placeholders_nodup_iff, ← hwritten]
    refine ⟨fun hi => hi.distinct, fun hnodup => ⟨hnodup, fun p hp => ?_⟩⟩
    rw [hbound]
    exact Lib.overlay_of_mem hnodup hp none

/-- At 18 `MATCH (n) WHERE (n.age > 30) AND EXISTS { MATCH (m) WHERE m.age = 5 RETURN m }`, at 21 the same
without `n.age > 30`. -/
def correlatedQuery : QueryAstArena where
  nodes := [
    .nodePattern (some "n") none [], .identifier "n", .propertyAccess 1 "age", .literal (.int64 30),
    .binaryExpression 2 .gt 3, .nodePattern (some "m") none [], .identifier "m", .propertyAccess 6 "age",
    .literal (.int64 5), .binaryExpression 7 .eq 8, .whereClause 9, .matchClause false [5] (some 10),
    .returnClause false [⟨6, none, none⟩] [] none none,
    .queryStatement .normal none [] [11] [] [] [] (some 12), .existsSubquery 13,
    .binaryExpression 4 .and 14, .whereClause 15, .matchClause false [0] (some 16),
    .queryStatement .normal none [] [17] [] [] [] none,
    .whereClause 14, .matchClause false [0] (some 19), .queryStatement .normal none [] [20] [] [] [] none]

theorem parameterIntegrity_correlatedQuery : ∃ compiled t,
    Dialect.cypher.visitQuery correlatedQuery 9 21 Emitter.new = .ok (compiled, t) ∧
    t.written = [("p0", .int64 5)] ∧ ParameterIntegrity compiled t.written := by
  refine ⟨_, _, rfl, rfl, ?_⟩
  refine (parameterIntegrity_iff .cypher correlatedQuery 9 21 Emitter.new _ _ rfl).2.2.mpr ?_
  exact Mark.nodup_numbering_iff.mp (by decide)

theorem nested_literal_takes_placeholder : ∃ arena root, ∀ d : Dialect, ∃ compiled t,
    d.visitQuery arena 9 root Emitter.new = .ok (compiled, t) ∧
    compiled.statement = "MATCH (n) WHERE (n.age > $p0) AND EXISTS \x7b MATCH (m) WHERE m.age = $p0 RETURN m \x7d" ∧
    t.written = [("p0", .int64 30), ("p0", .int64 5)] ∧
    compiled.parameters.lookup "p0" = some (.int64 5) ∧
    ¬ ParameterIntegrity compiled t.written := by
  refine ⟨correlatedQuery, 18, fun d => ?_⟩
  cases d <;> refine ⟨_, _, rfl, by decide, rfl, rfl, fun h => ?_⟩ <;> exact absurd h.distinct (by decide)

end Voyager
