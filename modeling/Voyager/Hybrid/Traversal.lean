import Mathlib.Data.List.Chain
import Mathlib.Data.List.Nodup

/-! Traversal of an edge table by a recursive common table expression. -/

namespace Voyager.Hybrid

open List

section

variable {R : Type} (recursive : R → List R)

/-- A recursive UNION ALL: each round reads the rows of the round before, until one is empty. -/
def unionAll : ℕ → List R → Option (List R)
  | _, [] => some []
  | 0, _ => none
  | fuel + 1, working => (unionAll fuel (working.flatMap recursive)).map (working ++ ·)

lemma unionAll_eq {rounds fuel : ℕ} {working : List R} (h : (flatMap recursive)^[rounds] working = [])
    (hfuel : rounds ≤ fuel) :
    unionAll recursive fuel working = some ((range rounds).flatMap fun k => (flatMap recursive)^[k] working) := by
  induction rounds generalizing fuel working with
  | zero =>
    cases h
    rw [unionAll]
    rfl
  | succ rounds ih =>
    obtain ⟨fuel, rfl⟩ := Nat.exists_eq_add_of_le' (Nat.one_le_of_lt hfuel)
    cases working with
    | nil =>
      have hnil : ∀ k, (flatMap recursive)^[k] [] = [] := fun k => Function.iterate_fixed rfl k
      simp [unionAll, hnil]
    | cons row working =>
      rw [unionAll, ih h (Nat.le_of_succ_le_succ hfuel)]
      · simp [range_succ_eq_map, flatMap_map]
      · simp

end

structure EdgeTable (E V : Type) where
  rows : List E
  sourceCol : E → Option V
  targetCol : E → Option V
  nodup : rows.Nodup

structure TraversalRow (V : Type) where
  sourceId : Option V
  targetId : Option V
  depth : ℕ
deriving DecidableEq

variable {E V : Type} [DecidableEq V] (t : EdgeTable E V)

/-- Equality in SQL, which holds of no NULL. -/
def sqlEq (a b : Option V) : Bool := a.isSome && a == b

def baseSelect : List (TraversalRow V) := t.rows.map fun e => ⟨t.sourceCol e, t.targetCol e, 1⟩

def recursiveSelect (maxHops : ℕ) (row : TraversalRow V) : List (TraversalRow V) :=
  if row.depth < maxHops then
    (t.rows.filter fun e => sqlEq row.targetId (t.sourceCol e)).map fun e => ⟨row.sourceId, t.targetCol e, row.depth + 1⟩
  else []

def asCte (maxHops _minHops fuel : ℕ) : Option (List (TraversalRow V)) :=
  unionAll (recursiveSelect t maxHops) fuel (baseSelect t)

namespace EdgeTable

/-- The edges of a walk, the last one first. -/
def Walk (w : List E) : Prop :=
  w ≠ [] ∧ (∀ e ∈ w, e ∈ t.rows) ∧ w.IsChain fun next e => sqlEq (t.targetCol e) (t.sourceCol next) = true

def walkRow (w : List E) : TraversalRow V := ⟨w.getLast?.bind t.sourceCol, w.head?.bind t.targetCol, w.length⟩

def walks : ℕ → List (List E)
  | 0 => t.rows.map ([·])
  | k + 1 => (walks k).flatMap fun w =>
    (t.rows.filter fun e => sqlEq (t.walkRow w).targetId (t.sourceCol e)).map (· :: w)

def walksUpTo (maxHops : ℕ) : List (List E) := (range maxHops).flatMap t.walks

variable {t}

lemma mem_walks {k : ℕ} {w : List E} : w ∈ t.walks k ↔ t.Walk w ∧ w.length = k + 1 := by
  induction k generalizing w with
  | zero => rcases w with _ | ⟨e, _ | ⟨d, w⟩⟩ <;> simp [walks, Walk]
  | succ k ih =>
    rcases w with _ | ⟨e, _ | ⟨d, w⟩⟩
    · simp [walks, Walk]
    · simp [walks, ih, Walk]
    · simp [walks, ih, Walk, walkRow]
      tauto

lemma nodup_walks (k : ℕ) : (t.walks k).Nodup := by
  induction k with
  | zero => exact t.nodup.map fun d e h => by simpa using h
  | succ k ih =>
    refine nodup_flatMap.mpr ⟨fun w _ => (t.nodup.filter _).map fun d e h => by simpa using h, ih.imp fun hne => ?_⟩
    simp only [Function.onFun, disjoint_left, mem_map]
    rintro _ ⟨d, -, rfl⟩ ⟨e, -, heq⟩
    exact hne (tail_eq_of_cons_eq heq.symm)

lemma rounds_eq {maxHops k : ℕ} (hk : k < maxHops) :
    (flatMap (recursiveSelect t maxHops))^[k] (baseSelect t) = (t.walks k).map t.walkRow := by
  induction k with
  | zero => simp [baseSelect, walks, walkRow]
  | succ k ih =>
    rw [Function.iterate_succ_apply', ih (by omega), walks, flatMap_map, map_flatMap]
    refine flatMap_congr fun w hw => ?_
    obtain ⟨⟨hne, -⟩, hlen⟩ := mem_walks.mp hw
    have hdepth : (t.walkRow w).depth < maxHops := lt_of_eq_of_lt hlen hk
    rw [recursiveSelect, if_pos hdepth, map_map]
    refine map_congr_left fun e _ => ?_
    obtain ⟨d, v, rfl⟩ := exists_cons_of_ne_nil hne
    simp [walkRow]

lemma mem_walksUpTo {maxHops : ℕ} {w : List E} : w ∈ t.walksUpTo maxHops ↔ t.Walk w ∧ w.length ≤ maxHops := by
  simp only [walksUpTo, mem_flatMap, mem_range, mem_walks]
  constructor
  · rintro ⟨k, hk, hw, hlen⟩
    exact ⟨hw, by omega⟩
  · rintro ⟨hw, hhigh⟩
    have := length_pos_of_ne_nil hw.1
    exact ⟨w.length - 1, by omega, hw, by omega⟩

lemma nodup_walksUpTo (maxHops : ℕ) : (t.walksUpTo maxHops).Nodup := by
  refine nodup_flatMap.mpr ⟨fun k _ => nodup_walks k, nodup_range.imp fun hne w hi hj => hne ?_⟩
  have := (mem_walks.mp hi).2
  have := (mem_walks.mp hj).2
  omega

lemma asCte_eq {maxHops fuel : ℕ} (hpos : 1 ≤ maxHops) (minHops : ℕ) (hfuel : maxHops ≤ fuel) :
    asCte t maxHops minHops fuel = some ((t.walksUpTo maxHops).map t.walkRow) := by
  obtain ⟨n, rfl⟩ := Nat.exists_eq_add_of_le' hpos
  have hlast : (flatMap (recursiveSelect t (n + 1)))^[n + 1] (baseSelect t) = [] := by
    rw [Function.iterate_succ_apply', rounds_eq n.lt_succ_self, flatMap_map, flatMap_eq_nil_iff]
    intro w hw
    exact if_neg (by simp [walkRow, (mem_walks.mp hw).2])
  rw [asCte, unionAll_eq _ hlast hfuel, walksUpTo, map_flatMap]
  exact congrArg some (flatMap_congr fun k hk => rounds_eq (mem_range.mp hk))

/-- One row for each walk whose length is within the bounds. -/
def Traverses (t : EdgeTable E V) (minHops maxHops : ℕ) (rows : List (TraversalRow V)) : Prop :=
  ∃ ws : List (List E), ws.Nodup ∧ (∀ w, w ∈ ws ↔ t.Walk w ∧ minHops ≤ w.length ∧ w.length ≤ maxHops) ∧
    rows.Perm (ws.map t.walkRow)

end EdgeTable

open EdgeTable

theorem asCte_traverses {minHops maxHops : ℕ} (hpos : 1 ≤ minHops) (hle : minHops ≤ maxHops) :
    ∃ rows, (∀ fuel, maxHops ≤ fuel → asCte t maxHops minHops fuel = some rows) ∧
      (t.Traverses minHops maxHops rows ↔ minHops = 1 ∨ t.rows = []) := by
  refine ⟨_, fun fuel hfuel => asCte_eq (hpos.trans hle) minHops hfuel, ?_⟩
  constructor
  · rintro ⟨ws, -, hws, hperm⟩
    rcases hrows : t.rows with _ | ⟨e, rest⟩
    · exact .inr rfl
    · -- the row of the first edge has the depth 1
      have hwalk : t.Walk [e] := ⟨cons_ne_nil e [], by simp [hrows], .singleton e⟩
      have hrow := hperm.mem_iff.mp (mem_map_of_mem (mem_walksUpTo.mpr ⟨hwalk, hpos.trans hle⟩))
      obtain ⟨w, hw, hsame⟩ := mem_map.mp hrow
      have hdepth : w.length = 1 := congrArg TraversalRow.depth hsame
      exact .inl (le_antisymm (hdepth ▸ ((hws w).mp hw).2.1) hpos)
  · intro h
    refine ⟨t.walksUpTo maxHops, nodup_walksUpTo maxHops, fun w => ?_, .refl _⟩
    rw [mem_walksUpTo]
    refine ⟨fun ⟨hw, hlen⟩ => ⟨hw, ?_, hlen⟩, fun ⟨hw, _, hlen⟩ => ⟨hw, hlen⟩⟩
    rcases h with rfl | hnone
    · exact length_pos_of_ne_nil hw.1
    · obtain ⟨e, w, rfl⟩ := exists_cons_of_ne_nil hw.1
      have hmem := hw.2.1 e mem_cons_self
      rw [hnone] at hmem
      cases hmem

def twoNodes : EdgeTable Bool Bool := ⟨[false], some, fun e => some !e, by decide⟩

theorem asCte_traverses_twoNodes :
    ∃ rows, (∀ fuel, 2 ≤ fuel → asCte twoNodes 2 1 fuel = some rows) ∧ twoNodes.Traverses 1 2 rows := by
  obtain ⟨rows, hrows, hexact⟩ := asCte_traverses twoNodes (le_refl 1) (by decide : 1 ≤ 2)
  exact ⟨rows, hrows, hexact.mpr (.inl rfl)⟩

theorem asCte_below_minHops : asCte twoNodes 2 2 2 = some [⟨some false, some true, 1⟩] ∧
    ¬ twoNodes.Traverses 2 2 [⟨some false, some true, 1⟩] := by
  refine ⟨by decide, ?_⟩
  rintro ⟨ws, -, hws, hperm⟩
  obtain ⟨w, hw, hsame⟩ := mem_map.mp (hperm.mem_iff.mp mem_cons_self)
  have hdepth : w.length = 1 := congrArg TraversalRow.depth hsame
  have := ((hws w).mp hw).2.1
  omega

end Voyager.Hybrid
