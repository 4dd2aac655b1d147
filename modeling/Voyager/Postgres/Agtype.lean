import Voyager.Bolt.Value
import Voyager.Postgres.Format

namespace Voyager.Postgres

open Bolt List Option

structure AgeVertex where
  id : I64
  label : String
  properties : List (String × Json)

structure AgeEdge where
  id : I64
  label : String
  startId : I64
  endId : I64
  properties : List (String × Json)

structure AgePath where
  vertices : List AgeVertex
  edges : List AgeEdge

/-- What `serde_json` makes of a number. -/
structure Numbers where
  asI64 : Number → Option I64
  asF64 : Number → Option F64

section

variable (numbers : Numbers)

mutual

def fromJsonToBoltValue : Json → BoltValue
  | .null => .null
  | .bool b => .boolean b
  | .number n =>
    match numbers.asI64 n, numbers.asF64 n with
    | some i, _ => .integer i
    | none, some f => .float f
    | none, none => .string (.ofList n.text)
  | .string s => .string (.ofList s)
  | .array items => .list (boltItems items)
  | .object members => .map (boltMembers members)

def boltItems : List Json → List BoltValue
  | [] => []
  | item :: items => fromJsonToBoltValue item :: boltItems items

def boltMembers : List (List Char × Json) → List (String × BoltValue)
  | [] => []
  | (key, item) :: members => (.ofList key, fromJsonToBoltValue item) :: boltMembers members

end

def boltProperties (properties : List (String × Json)) : List (String × BoltValue) :=
  properties.map fun p => (p.1, fromJsonToBoltValue numbers p.2)

def AgeVertex.toBoltNode (v : AgeVertex) : BoltNode BoltValue :=
  ⟨v.id, [v.label], boltProperties numbers v.properties, some (toString v.id.toInt)⟩

def AgeEdge.toUnbound (e : AgeEdge) : BoltUnboundRelationship BoltValue :=
  ⟨e.id, e.label, boltProperties numbers e.properties, some (toString e.id.toInt)⟩

def AgePath.toBoltPath (path : AgePath) : BoltPath BoltValue where
  nodes := path.vertices.map (·.toBoltNode numbers)
  relationships := path.edges.map (·.toUnbound numbers)
  sequence := (List.range path.edges.length).map fun i => .ofNat 64 (i + 1)

structure Traversal where
  relationship : BoltUnboundRelationship BoltValue
  forward : Bool
  node : BoltNode BoltValue

abbrev Walk := BoltNode BoltValue × List Traversal

def AgePath.walkFrom : AgeVertex → List AgeEdge → List AgeVertex → List Traversal
  | here, e :: edges, next :: vertices =>
    ⟨e.toUnbound numbers, e.startId = here.id, next.toBoltNode numbers⟩ :: walkFrom next edges vertices
  | _, _, _ => []

def AgePath.walk (path : AgePath) : Option Walk :=
  match path.vertices with
  | [] => none
  | start :: vertices => some (start.toBoltNode numbers, walkFrom numbers start path.edges vertices)

/-- The rule of Bolt: a relationship counted from one, negative when it is followed backwards, and a node. -/
def expandSequence (path : BoltPath BoltValue) : List I64 → Option (List Traversal)
  | [] => some []
  | [_] => none
  | r :: n :: rest =>
    (if r = 0 then none else path.relationships[r.toInt.natAbs - 1]?).bind fun relationship =>
      (if n.toInt < 0 then none else path.nodes[n.toInt.toNat]?).bind fun node =>
        (expandSequence path rest).map (⟨relationship, 0 < r.toInt, node⟩ :: ·)

def expand (path : BoltPath BoltValue) : Option Walk := do
  let start ← path.nodes.head?
  let steps ← expandSequence path path.sequence
  return (start, steps)

lemma length_of_expandSequence {path : BoltPath BoltValue} {sequence : List I64} {steps : List Traversal}
    (h : expandSequence path sequence = some steps) : sequence.length = 2 * steps.length := by
  induction sequence using List.twoStepInduction generalizing steps with
  | nil =>
    cases h
    rfl
  | singleton => cases h
  | cons_cons r n rest ih =>
    simp only [expandSequence, bind_eq_some_iff, map_eq_some_iff] at h
    obtain ⟨-, -, -, -, more, hmore, rfl⟩ := h
    simp only [length_cons, ih hmore]
    omega

lemma length_walkFrom {edges : List AgeEdge} {vertices : List AgeVertex} (here : AgeVertex)
    (h : vertices.length = edges.length) : (AgePath.walkFrom numbers here edges vertices).length = edges.length := by
  induction edges generalizing here vertices with
  | nil => cases vertices <;> rfl
  | cons e edges ih =>
    cases vertices with
    | nil => cases h
    | cons next vertices => exact congrArg (· + 1) (ih next (Nat.succ.inj h))

theorem expand_toBoltPath_iff (path : AgePath) (hvertices : path.vertices.length = path.edges.length + 1) :
    expand (path.toBoltPath numbers) = path.walk numbers ↔ path.edges = [] := by
  obtain ⟨_ | ⟨start, vertices⟩, edges⟩ := path
  · cases hvertices
  have hwalk := length_walkFrom numbers start (Nat.succ.inj hvertices)
  constructor
  · intro h
    obtain ⟨-, -, h⟩ := bind_eq_some_iff.mp h
    obtain ⟨steps, hsteps, hsame⟩ := bind_eq_some_iff.mp h
    cases hsame
    have hlength := length_of_expandSequence hsteps
    rw [hwalk, AgePath.toBoltPath, length_map, length_range] at hlength
    exact length_eq_zero_iff.mp (by omega)
  · rintro rfl
    obtain rfl := length_eq_zero_iff.mp (Nat.succ.inj hvertices)
    rfl

end

def noNumbers : Numbers := ⟨fun _ => none, fun _ => none⟩

def alice : AgeVertex := ⟨1, "Person", []⟩

def bob : AgeVertex := ⟨2, "Person", []⟩

def knows : AgeEdge := ⟨3, "KNOWS", 1, 2, []⟩

theorem expand_toBoltPath_alone : expand (AgePath.toBoltPath noNumbers ⟨[alice], []⟩) =
    AgePath.walk noNumbers ⟨[alice], []⟩ :=
  (expand_toBoltPath_iff noNumbers ⟨[alice], []⟩ rfl).mpr rfl

theorem expand_toBoltPath_knows : expand (AgePath.toBoltPath noNumbers ⟨[alice, bob], [knows]⟩) = none ∧
    AgePath.walk noNumbers ⟨[alice, bob], [knows]⟩ =
      some (alice.toBoltNode noNumbers, [⟨knows.toUnbound noNumbers, true, bob.toBoltNode noNumbers⟩]) :=
  ⟨rfl, rfl⟩

end Voyager.Postgres
