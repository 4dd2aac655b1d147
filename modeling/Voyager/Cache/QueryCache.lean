import Mathlib.Data.Finmap
import Mathlib.Tactic

/-! The cache of compiled queries. Every method holds the lock from beginning to end, so a run is a sequence of
calls. Counters wrap around at 64 bits, as they do in the release build. -/

namespace Voyager

structure LruState (Q : Type) where
  map : Finmap fun _ : String => Q × UInt64
  order : List (String × UInt64)
  currentGen : UInt64
  hits : UInt64
  misses : UInt64
  evictions : UInt64

structure CompiledQueryCache (Q : Type) where
  capacity : ℕ
  inner : LruState Q

variable {Q : Type}

namespace LruState

def empty : LruState Q := ⟨∅, [], 0, 0, 0, 0⟩

def mapLen (s : LruState Q) : ℕ := s.map.keys.card

variable (map : Finmap fun _ : String => Q × UInt64)

def isCurrent (entry : String × UInt64) : Bool :=
  match map.lookup entry.1 with
  | some (_, currentGen) => currentGen == entry.2
  | none => false

def evict (capacity : ℕ) (s : LruState Q) : List (String × UInt64) → LruState Q
  | [] => { s with order := [] }
  | oldest :: rest =>
    if s.mapLen ≥ capacity then
      if isCurrent s.map oldest then
        { s with map := s.map.erase oldest.1, order := rest, evictions := s.evictions + 1 }
      else evict capacity s rest
    else { s with order := oldest :: rest }

def compactStep (done : Finset String × List (String × UInt64)) (entry : String × UInt64) :
    Finset String × List (String × UInt64) :=
  if isCurrent map entry && entry.1 ∉ done.1 then (insert entry.1 done.1, entry :: done.2) else done

def compact (s : LruState Q) : LruState Q :=
  { s with order := (s.order.reverse.foldl (compactStep s.map) (∅, [])).2 }

end LruState

variable (cache : CompiledQueryCache Q)

namespace CompiledQueryCache

def new (capacity : ℕ) : CompiledQueryCache Q := ⟨max capacity 1, .empty⟩

def get (key : String) : Option Q × CompiledQueryCache Q :=
  let state := cache.inner
  let genId := state.currentGen + 1
  match state.map.lookup key with
  | some (compiled, _) =>
    (some compiled, { cache with inner := { state with
      map := state.map.insert key (compiled, genId)
      order := state.order ++ [(key, genId)]
      currentGen := genId
      hits := state.hits + 1 } })
  | none => (none, { cache with inner := { state with currentGen := genId, misses := state.misses + 1 } })

def put (key : String) (query : Q) : CompiledQueryCache Q :=
  let genId := cache.inner.currentGen + 1
  let state := { cache.inner with currentGen := genId }
  match state.map.lookup key with
  | some _ =>
    { cache with inner := { state with
      map := state.map.insert key (query, genId)
      order := state.order ++ [(key, genId)] } }
  | none =>
    let state := state.evict cache.capacity state.order
    let state := { state with
      order := state.order ++ [(key, genId)]
      map := state.map.insert key (query, genId) }
    { cache with inner := if state.order.length > cache.capacity * 4 then state.compact else state }

def len : ℕ := cache.inner.mapLen

def clear : CompiledQueryCache Q := { cache with inner := .empty }

end CompiledQueryCache

inductive CacheCall (Q : Type)
  | get (key : String)
  | put (key : String) (query : Q)
  | clear

namespace CacheCall

def run : CacheCall Q → CompiledQueryCache Q
  | get key => (cache.get key).2
  | put key query => cache.put key query
  | clear => cache.clear

end CacheCall

def CompiledQueryCache.after (calls : List (CacheCall Q)) : CompiledQueryCache Q :=
  calls.foldl CacheCall.run cache

end Voyager
