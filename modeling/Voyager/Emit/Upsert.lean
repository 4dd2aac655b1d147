import Voyager.Emit.IsoGql
import Voyager.Lib.Bindings

/-! What an engine does with a `MERGE` clause and with the statement that is written for it. -/

namespace Voyager.IsoGqlEmitter

open List

open Lib (updates updates_twice)

inductive Source (aliases : List String)
  | literal (value : LiteralValue)
  | parameter (name : String)
  | field (row : {x // x ∈ aliases}) (name : String)

structure Assignment (aliases : List String) where
  var : String
  property : String
  value : Source aliases

section

variable (arena : QueryAstArena) (aliases : List String)

def source (h : NodeHandle) : Option (Source aliases) :=
  match arena.nodes[h]? with
  | some (.literal value) => some (.literal value)
  | some (.parameter name) => some (.parameter name)
  | some (.propertyAccess owner name) =>
    match arena.nodes[owner]? with
    | some (.identifier x) => if hx : x ∈ aliases then some (.field ⟨x, hx⟩ name) else none
    | _ => none
  | _ => none

def assigned (h : NodeHandle) : Option (String × String) :=
  match arena.nodes[h]? with
  | some (.propertyAccess owner property) =>
    match arena.nodes[owner]? with
    | some (.identifier x) => some (x, property)
    | _ => none
  | _ => none

def assignment (item : NodeHandle) : Option (Assignment aliases) :=
  match arena.nodes[item]? with
  | some (.setItem target value false) => do
    let (x, property) ← assigned arena target
    let value ← source arena aliases value
    some ⟨x, property, value⟩
  | _ => none

end

structure Row (aliases : List String) (Node Value : Type) where
  node : String → Option Node
  record : {x // x ∈ aliases} → String → Value

inductive Outcome (ρ : Type)
  | created (row : ρ)
  | matched (rows : List ρ)

def Outcome.rows {ρ : Type} : Outcome ρ → List ρ
  | .created row => [row]
  | .matched rows => rows

abbrev World (Graph Node Value : Type) := Graph × (Node × String → Value)

/-- An engine at one row of a statement: what it takes literals and parameters for, what it finds or adds for a
pattern, and what the other SET items do. -/
structure Engine (aliases : List String) (Graph Node Value : Type) where
  literal : LiteralValue → Value
  parameter : String → Value
  upsert : NodeHandle → World Graph Node Value → Outcome (Row aliases Node Value) × World Graph Node Value
  other : NodeHandle → Row aliases Node Value → World Graph Node Value → World Graph Node Value

structure Upsert where
  path : NodeHandle
  items : List NodeHandle

def Upsert.emit (arena : QueryAstArena) (c : Callees) (u : Upsert) : EmitM Unit := do
  pushStr "UPSERT "
  c.path u.path
  emitSetList arena c " SET " u.items

section

variable {aliases : List String} {Graph Node Value : Type} [DecidableEq Node] (arena : QueryAstArena)
  (engine : Engine aliases Graph Node Value)

variable (row : Row aliases Node Value)

def Engine.value : Source aliases → Value
  | .literal value => engine.literal value
  | .parameter name => engine.parameter name
  | .field x name => row.record x name

def Engine.entry (a : Assignment aliases) : Option ((Node × String) × Value) :=
  (row.node a.var).map fun n => ((n, a.property), engine.value row a.value)

def Engine.setItem (world : World Graph Node Value) (item : NodeHandle) : World Graph Node Value :=
  match assignment arena aliases item with
  | some a => (world.1, updates (engine.entry row a).toList world.2)
  | none => engine.other item row world

def Engine.set (items : List NodeHandle) (rows : List (Row aliases Node Value))
    (world : World Graph Node Value) : World Graph Node Value :=
  rows.foldl (fun world row => items.foldl (engine.setItem arena row) world) world

def Engine.merge (path : NodeHandle) (onCreateSet onMatchSet : List NodeHandle)
    (world : World Graph Node Value) : World Graph Node Value :=
  match engine.upsert path world with
  | (.created row, world) => engine.set arena onCreateSet [row] world
  | (.matched rows, world) => engine.set arena onMatchSet rows world

/-- What the clause asks without its branches: every row gets the items of ON CREATE and then those of ON MATCH. -/
def Engine.mergeBoth (path : NodeHandle) (onCreateSet onMatchSet : List NodeHandle)
    (world : World Graph Node Value) : World Graph Node Value :=
  (engine.upsert path world).1.rows.foldl
    (fun world row => engine.set arena onMatchSet [row] (engine.set arena onCreateSet [row] world))
    (engine.upsert path world).2

def Upsert.run (u : Upsert) (world : World Graph Node Value) : World Graph Node Value :=
  engine.set arena u.items (engine.upsert u.path world).1.rows (engine.upsert u.path world).2

variable {arena}

variable {items : List NodeHandle}

lemma foldl_setItem {assignments : List (Assignment aliases)}
    (h : items.map (assignment arena aliases) = assignments.map some) (row : Row aliases Node Value)
    (world : World Graph Node Value) :
    items.foldl (engine.setItem arena row) world =
      (world.1, updates (assignments.filterMap (engine.entry row)) world.2) := by
  induction assignments generalizing items world with
  | nil =>
    rw [map_nil, map_eq_nil_iff] at h
    rw [h, foldl_nil, filterMap_nil, updates, foldl_nil]
  | cons a assignments ih =>
    obtain ⟨item, items, rfl, ha, hitems⟩ := List.map_eq_cons_iff.mp h
    have hset : engine.setItem arena row world item = (world.1, updates (engine.entry row a).toList world.2) := by
      rw [Engine.setItem, ha]
    rw [foldl_cons, ih hitems, hset]
    cases hentry : engine.entry row a with
    | none =>
      rw [filterMap_cons_none hentry]
      rfl
    | some entry =>
      rw [filterMap_cons_some hentry]
      rfl

lemma set_congr {items' : List NodeHandle}
    (h : ∀ row world, items.foldl (engine.setItem arena row) world = items'.foldl (engine.setItem arena row) world)
    (rows : List (Row aliases Node Value)) (world : World Graph Node Value) :
    engine.set arena items rows world = engine.set arena items' rows world := by
  induction rows generalizing world with
  | nil => rfl
  | cons row rows ih =>
    rw [Engine.set, Engine.set, foldl_cons, foldl_cons, h row world, ← Engine.set, ← Engine.set]
    apply ih

lemma merge_of_same {path : NodeHandle} {onCreateSet onMatchSet : List NodeHandle}
    {assignments : List (Assignment aliases)}
    (hcreate : onCreateSet.map (assignment arena aliases) = assignments.map some)
    (hmatch : onMatchSet.map (assignment arena aliases) = assignments.map some) (world : World Graph Node Value) :
    Upsert.run arena engine ⟨path, onCreateSet ++ onMatchSet⟩ world =
      engine.merge arena path onCreateSet onMatchSet world := by
  have hboth : ∀ row world, (onCreateSet ++ onMatchSet).foldl (engine.setItem arena row) world =
      (world.1, updates (assignments.filterMap (engine.entry row)) world.2) := by
    intro row world
    rw [foldl_append, foldl_setItem engine hcreate, foldl_setItem engine hmatch, updates_twice]
  rw [Upsert.run, Engine.merge]
  rcases engine.upsert path world with ⟨row | rows, world'⟩
  · apply set_congr engine
    intro row world
    rw [hboth, foldl_setItem engine hcreate]
  · apply set_congr engine
    intro row world
    rw [hboth, foldl_setItem engine hmatch]

/-- The statement makes the assignments of both branches at every row, those of ON CREATE first. It does what the clause
asks where the two branches assign the same. -/
theorem emitMerge_branches {c : Callees} {h path : NodeHandle} {onCreateSet onMatchSet : List NodeHandle}
    (hnode : arena.nodes[h]? = some (.mergeClause path onCreateSet onMatchSet)) :
    emitMerge arena c h = Upsert.emit arena c ⟨path, onCreateSet ++ onMatchSet⟩ ∧
      (∀ world, Upsert.run arena engine ⟨path, onCreateSet ++ onMatchSet⟩ world =
        engine.mergeBoth arena path onCreateSet onMatchSet world) ∧
      ∀ assignments : List (Assignment aliases), onCreateSet.map (assignment arena aliases) = assignments.map some →
        onMatchSet.map (assignment arena aliases) = assignments.map some → ∀ world,
          Upsert.run arena engine ⟨path, onCreateSet ++ onMatchSet⟩ world =
            engine.merge arena path onCreateSet onMatchSet world := by
  refine ⟨?_, fun world => ?_, fun _ hcreate hmatch => merge_of_same engine hcreate hmatch⟩
  · rw [emitMerge, node, arena.get_eq_ok.mpr hnode]
    rfl
  · rw [Upsert.run, Engine.mergeBoth, Engine.set]
    congr 1
    funext world row
    rw [foldl_append]
    rfl

end

def merging (property : String) : QueryAstArena :=
  ⟨[.nodePattern (some "n") none [], .identifier "n", .propertyAccess 1 "new", .literal (.bool true), .setItem 2 3 false,
    .propertyAccess 1 property, .setItem 5 3 false, .mergeClause 0 [4] [6],
    .queryStatement .normal none [] [] [] [] [7] none]⟩

def finding : Engine [] Unit Unit (Option LiteralValue) where
  literal := some
  parameter _ := none
  upsert _ world := (.matched [⟨fun _ => some (), fun _ _ => none⟩], world)
  other _ _ := id

theorem emitMerge_branches_alike :
    Upsert.run (merging "seen") finding ⟨0, [4] ++ [6]⟩ ((), fun _ => none) =
        finding.mergeBoth (merging "seen") 0 [4] [6] ((), fun _ => none) ∧
      Upsert.run (merging "new") finding ⟨0, [4] ++ [6]⟩ ((), fun _ => none) =
        finding.merge (merging "new") 0 [4] [6] ((), fun _ => none) :=
  have hitems : [4].map (assignment (merging "new") []) = [⟨"n", "new", .literal (.bool true)⟩].map some := rfl
  ⟨(emitMerge_branches (c := callees (merging "seen") 9) (h := 7) finding rfl).2.1 _,
    (emitMerge_branches (c := callees (merging "new") 9) (h := 7) finding rfl).2.2 _ hitems rfl _⟩

theorem emitMerge_branches_both :
    (visitQuery (merging "seen") (callees (merging "seen") 9) 8 Emitter.new).toOption.map (fun r => r.1.statement) =
      some "UPSERT (n) SET n.new = $p0, n.seen = $p1" ∧
    (Upsert.run (merging "seen") finding ⟨0, [4] ++ [6]⟩ ((), fun _ => none)).2 ((), "new") = some (.bool true) ∧
    (finding.merge (merging "seen") 0 [4] [6] ((), fun _ => none)).2 ((), "new") = none := by
  refine ⟨?_, rfl, rfl⟩
  decide +kernel

end Voyager.IsoGqlEmitter
