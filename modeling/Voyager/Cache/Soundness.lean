import Voyager.Cache.QueryCache

/-! What the cache answers was put under the key. -/

namespace Voyager

variable {Q : Type}

namespace LruState

lemma lookup_evict {capacity : ℕ} {s : LruState Q} {queue : List (String × UInt64)} {key : String} {x : Q × UInt64}
    (h : (s.evict capacity queue).map.lookup key = some x) : s.map.lookup key = some x := by
  induction queue with
  | nil => exact h
  | cons oldest rest ih =>
    rw [evict] at h
    split_ifs at h with hfull hcurrent
    · by_cases hkey : key = oldest.1
      · subst hkey
        rw [Finmap.lookup_erase] at h
        cases h
      · rwa [Finmap.lookup_erase_ne hkey] at h
    · exact ih h
    · exact h

end LruState

namespace CompiledQueryCache

variable {cache : CompiledQueryCache Q} {key : String} {query : Q} {P : String → Q → Prop}

def query? (cache : CompiledQueryCache Q) (key : String) : Option Q := (cache.inner.map.lookup key).map Prod.fst

def Holds (P : String → Q → Prop) (cache : CompiledQueryCache Q) : Prop :=
  ∀ key query, cache.query? key = some query → P key query

lemma get_fst (cache : CompiledQueryCache Q) (key : String) : (cache.get key).1 = cache.query? key := by
  rw [get, query?]
  split
  · rename_i compiled g hlookup
    rw [hlookup]
    rfl
  · rename_i hlookup
    rw [hlookup]
    rfl

lemma query?_of_insert {map : Finmap fun _ : String => Q × UInt64} {g : UInt64}
    (h : cache.inner.map = map.insert key (query, g)) (other : String) :
    cache.query? other = if other = key then some query else (map.lookup other).map Prod.fst := by
  rw [query?, h]
  split_ifs with hkey
  · rw [hkey, Finmap.lookup_insert]
    rfl
  · rw [Finmap.lookup_insert_of_ne _ hkey]

lemma query?_get (cache : CompiledQueryCache Q) (key other : String) :
    (cache.get key).2.query? other = cache.query? other := by
  rw [get]
  split
  · rename_i compiled g hlookup
    rw [query?_of_insert rfl]
    split_ifs with hkey
    · rw [hkey, query?, hlookup]
      rfl
    · rfl
  · rfl

lemma put_map (cache : CompiledQueryCache Q) (key : String) (query : Q) : ∃ map : Finmap fun _ : String => Q × UInt64,
      (∀ other x, map.lookup other = some x → cache.inner.map.lookup other = some x) ∧
      (cache.put key query).inner.map = map.insert key (query, cache.inner.currentGen + 1) := by
  rw [put]
  split
  · exact ⟨cache.inner.map, fun _ _ h => h, rfl⟩
  · refine ⟨(LruState.evict cache.capacity { cache.inner with currentGen := cache.inner.currentGen + 1 }
      cache.inner.order).map, ?_, ?_⟩
    · intro other x h
      have hkept := LruState.lookup_evict h
      exact hkept
    · dsimp only
      split_ifs with hlength
      · rfl
      · rfl

lemma query?_put_self (cache : CompiledQueryCache Q) (key : String) (query : Q) :
    (cache.put key query).query? key = some query := by
  obtain ⟨map, -, hput⟩ := put_map cache key query
  rw [query?_of_insert hput, if_pos rfl]

namespace Holds

lemma new (capacity : ℕ) : Holds P (.new capacity) := by
  intro key query h
  cases h

lemma get (h : Holds P cache) (key : String) : Holds P (cache.get key).2 := by
  intro other query hquery
  rw [query?_get] at hquery
  exact h other query hquery

lemma put (h : Holds P cache) (hquery : P key query) : Holds P (cache.put key query) := by
  intro other found hfound
  obtain ⟨map, hmap, hput⟩ := put_map cache key query
  rw [query?_of_insert hput] at hfound
  split_ifs at hfound with hkey
  · cases hfound
    rw [hkey]
    exact hquery
  · obtain ⟨x, hx, rfl⟩ := Option.map_eq_some_iff.mp hfound
    apply h other x.1
    rw [query?, hmap other x hx]
    rfl

end Holds

end CompiledQueryCache

end Voyager
