import Mathlib.Tactic

/-! The values of PackStream. A hash map is the list of its entries in the order of an iteration over it; a
floating point number is its bit pattern. -/

namespace Voyager.Bolt

open List

abbrev I64 := BitVec 64

abbrev F64 := BitVec 64

structure BoltNode (V : Type) where
  id : I64
  labels : List String
  properties : List (String × V)
  elementId : Option String
deriving DecidableEq, Repr

structure BoltRelationship (V : Type) where
  id : I64
  startNodeId : I64
  endNodeId : I64
  relType : String
  properties : List (String × V)
  elementId : Option String
  startElementId : Option String
  endElementId : Option String
deriving DecidableEq, Repr

structure BoltUnboundRelationship (V : Type) where
  id : I64
  relType : String
  properties : List (String × V)
  elementId : Option String
deriving DecidableEq, Repr

structure BoltPath (V : Type) where
  nodes : List (BoltNode V)
  relationships : List (BoltUnboundRelationship V)
  sequence : List I64
deriving DecidableEq, Repr

structure BoltPoint2D where
  srid : I64
  x : F64
  y : F64
deriving DecidableEq, Repr

structure BoltPoint3D where
  srid : I64
  x : F64
  y : F64
  z : F64
deriving DecidableEq, Repr

structure BoltDate where
  days : I64
deriving DecidableEq, Repr

structure BoltTime where
  nanoseconds : I64
  tzOffsetSeconds : I64
deriving DecidableEq, Repr

structure BoltLocalTime where
  nanoseconds : I64
deriving DecidableEq, Repr

structure BoltDateTime where
  seconds : I64
  nanoseconds : I64
  tzOffsetSeconds : I64
deriving DecidableEq, Repr

structure BoltLocalDateTime where
  seconds : I64
  nanoseconds : I64
deriving DecidableEq, Repr

structure BoltDateTimeZoneId where
  seconds : I64
  nanoseconds : I64
  zoneId : String
deriving DecidableEq, Repr

structure BoltDuration where
  months : I64
  days : I64
  seconds : I64
  nanoseconds : I64
deriving DecidableEq, Repr

inductive BoltValue where
  | null
  | boolean (b : Bool)
  | integer (i : I64)
  | float (f : F64)
  | bytes (bytes : List UInt8)
  | string (s : String)
  | list (items : List BoltValue)
  | map (entries : List (String × BoltValue))
  | struct (tag : UInt8) (fields : List BoltValue)
  | node (node : BoltNode BoltValue)
  | relationship (rel : BoltRelationship BoltValue)
  | path (path : BoltPath BoltValue)
  | point2D (point : BoltPoint2D)
  | point3D (point : BoltPoint3D)
  | date (date : BoltDate)
  | time (time : BoltTime)
  | localTime (time : BoltLocalTime)
  | dateTime (time : BoltDateTime)
  | localDateTime (time : BoltLocalDateTime)
  | dateTimeZoneId (time : BoltDateTimeZoneId)
  | duration (duration : BoltDuration)

namespace BoltValue

def children : BoltValue → List BoltValue
  | .list items => items
  | .map entries => entries.map Prod.snd
  | .struct _ fields => fields
  | .node n => n.properties.map Prod.snd
  | .relationship r => r.properties.map Prod.snd
  | .path p => p.nodes.flatMap (fun n => n.properties.map Prod.snd) ++
      p.relationships.flatMap (fun r => r.properties.map Prod.snd)
  | _ => []

lemma sizeOf_snd_lt {entries : List (String × BoltValue)} {v : BoltValue} (h : v ∈ entries.map Prod.snd) :
    sizeOf v < sizeOf entries := by
  obtain ⟨⟨key, v⟩, he, rfl⟩ := List.mem_map.mp h
  have hentry := sizeOf_lt_of_mem he
  simp only [Prod.mk.sizeOf_spec] at hentry
  simp only
  omega

lemma sizeOf_lt_of_mem_children {v u : BoltValue} (h : u ∈ v.children) : sizeOf u < sizeOf v := by
  cases v with
  | list items =>
    have := sizeOf_lt_of_mem (show u ∈ items from h)
    simp only [list.sizeOf_spec]
    omega
  | map entries =>
    have := sizeOf_snd_lt (show u ∈ entries.map Prod.snd from h)
    simp only [map.sizeOf_spec]
    omega
  | struct tag fields =>
    have := sizeOf_lt_of_mem (show u ∈ fields from h)
    simp only [struct.sizeOf_spec]
    omega
  | node n =>
    have := sizeOf_snd_lt (show u ∈ n.properties.map Prod.snd from h)
    obtain ⟨id, labels, properties, elementId⟩ := n
    simp only [node.sizeOf_spec, BoltNode.mk.sizeOf_spec] at this ⊢
    omega
  | relationship r =>
    have := sizeOf_snd_lt (show u ∈ r.properties.map Prod.snd from h)
    cases r
    simp only [relationship.sizeOf_spec, BoltRelationship.mk.sizeOf_spec] at this ⊢
    omega
  | path p =>
    obtain ⟨nodes, relationships, sequence⟩ := p
    simp only [path.sizeOf_spec, BoltPath.mk.sizeOf_spec]
    rcases List.mem_append.mp h with h | h
    · obtain ⟨n, hn, hu⟩ := List.mem_flatMap.mp h
      have hnode := sizeOf_lt_of_mem hn
      have := sizeOf_snd_lt hu
      cases n
      simp only [BoltNode.mk.sizeOf_spec] at this hnode
      omega
    · obtain ⟨r, hr, hu⟩ := List.mem_flatMap.mp h
      have hrel := sizeOf_lt_of_mem hr
      have := sizeOf_snd_lt hu
      cases r
      simp only [BoltUnboundRelationship.mk.sizeOf_spec] at this hrel
      omega
  | _ => simp [children] at h

theorem induction {P : BoltValue → Prop} (h : ∀ v, (∀ u ∈ v.children, P u) → P v) (v : BoltValue) : P v := by
  induction hn : sizeOf v using Nat.strong_induction_on generalizing v with
  | h n ih => exact h v fun u hu => ih (sizeOf u) (hn ▸ sizeOf_lt_of_mem_children hu) u rfl

def nest (depths : List ℕ) : ℕ := depths.foldr (fun d deepest => max (d + 1) deepest) 0

def depth (v : BoltValue) : ℕ :=
  match v with
  | .list items => nest (items.map fun u => depth u)
  | .map entries => nest (entries.map fun e => depth e.2)
  | .struct _ fields => nest (fields.map fun u => depth u)
  | .node n => nest [nest (n.labels.map fun _ => 0), nest (n.properties.map fun e => depth e.2)]
  | .relationship r => nest [nest (r.properties.map fun e => depth e.2)]
  | .path p =>
    nest [nest (p.nodes.map fun n =>
        nest [nest (n.labels.map fun _ => 0), nest (n.properties.map fun e => depth e.2)]),
      nest (p.relationships.map fun r => nest [nest (r.properties.map fun e => depth e.2)]),
      nest (p.sequence.map fun _ => 0)]
  | .point2D _ | .point3D _ | .date _ | .time _ | .localTime _ | .dateTime _ | .localDateTime _
  | .dateTimeZoneId _ | .duration _ => 1
  | .null | .boolean _ | .integer _ | .float _ | .bytes _ | .string _ => 0
termination_by sizeOf v
decreasing_by
  all_goals apply sizeOf_lt_of_mem_children
  all_goals simp only [children, mem_append, mem_flatMap, mem_map]
  all_goals grind

end BoltValue

end Voyager.Bolt
