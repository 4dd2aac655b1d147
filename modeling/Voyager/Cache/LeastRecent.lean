import Voyager.Lib.Lru
import Voyager.Cache.QueryCache

namespace Voyager

open Lib CacheCall List

variable {Q : Type}

namespace LruState

section

variable {map : Finmap fun _ : String => Q × UInt64} {k : String} {query : Q} {g : UInt64} {e : String × UInt64}

lemma isCurrent_insert (hfresh : e.2 ≠ g) :
    isCurrent (map.insert k (query, g)) e = (decide (e.1 ≠ k) && isCurrent map e) := by
  by_cases hk : e.1 = k
  · subst hk
    simp [isCurrent, Finmap.lookup_insert, hfresh.symm]
  · simp [isCurrent, Finmap.lookup_insert_of_ne _ hk, hk]

lemma isCurrent_insert_self : isCurrent (map.insert k (query, g)) (k, g) = true := by
  simp [isCurrent, Finmap.lookup_insert]

lemma isCurrent_erase : isCurrent (map.erase k) e = (decide (e.1 ≠ k) && isCurrent map e) := by
  by_cases hk : e.1 = k
  · subst hk
    simp [isCurrent, Finmap.lookup_erase]
  · simp [isCurrent, Finmap.lookup_erase_ne hk, hk]

end

structure Represents (s : LruState Q) (l : List (String × Q × UInt64)) : Prop where
  lookup : ∀ k x, s.map.lookup k = some x ↔ (k, x) ∈ l
  nodup : (l.map Prod.fst).Nodup
  order : s.order.filter (isCurrent s.map) = l.map fun e => (e.1, e.2.2)
  fresh : ∀ e ∈ s.order, e.2.toNat ≤ s.currentGen.toNat

variable {s : LruState Q} {l : List (String × Q × UInt64)} {k : String} {query : Q}

lemma represents_empty : Represents (empty : LruState Q) [] :=
  ⟨by simp [empty], nodup_nil, rfl, by simp [empty]⟩

namespace Represents

variable (h : Represents s l)

include h

lemma mapLen : s.mapLen = l.length := by
  have hkeys : s.map.keys = (l.map Prod.fst).toFinset := by
    ext k
    rw [Finmap.mem_keys, Finmap.mem_iff, mem_toFinset, mem_map]
    constructor
    · rintro ⟨x, hx⟩
      exact ⟨(k, x), (h.lookup k x).mp hx, rfl⟩
    · rintro ⟨⟨k, x⟩, he, rfl⟩
      exact ⟨x, (h.lookup k x).mpr he⟩
  rw [LruState.mapLen, hkeys, toFinset_card_of_nodup h.nodup, length_map]

lemma lookup_eq_none : s.map.lookup k = none ↔ k ∉ l.map Prod.fst := by
  rw [Option.eq_none_iff_forall_ne_some, mem_map]
  constructor
  · rintro hnone ⟨⟨k, x⟩, he, rfl⟩
    exact hnone x ((h.lookup k x).mpr he)
  · intro hnone x hx
    exact hnone ⟨(k, x), (h.lookup k x).mp hx, rfl⟩

lemma touch (hgen : s.currentGen.toNat + 1 < 2 ^ 64) (query : Q) {t : LruState Q}
    (hmap : t.map = s.map.insert k (query, s.currentGen + 1))
    (horder : t.order = s.order ++ [(k, s.currentGen + 1)]) (hcurrent : t.currentGen = s.currentGen + 1) :
    Represents t (l.filter (fun e => e.1 ≠ k) ++ [(k, query, s.currentGen + 1)]) := by
  have hnext : (s.currentGen + 1).toNat = s.currentGen.toNat + 1 := by
    rw [UInt64.toNat_add]
    exact Nat.mod_eq_of_lt hgen
  have hfresh : ∀ e ∈ s.order, e.2 ≠ s.currentGen + 1 := by
    intro e he heq
    have hle := h.fresh e he
    rw [heq, hnext] at hle
    omega
  refine ⟨?_, ?_, ?_, ?_⟩
  · intro k' x
    rw [hmap]
    by_cases hk : k' = k
    · subst hk
      simp [Finmap.lookup_insert, eq_comm]
    · simp [Finmap.lookup_insert_of_ne _ hk, h.lookup, hk]
  · rw [map_append, nodup_append']
    refine ⟨h.nodup.sublist (filter_sublist.map _), nodup_singleton _, ?_⟩
    simp
  · rw [hmap, horder, filter_append, filter_congr fun e he => isCurrent_insert (hfresh e he),
      ← filter_filter, h.order, filter_map, map_append]
    simp only [filter_singleton, isCurrent_insert_self]
    rfl
  · intro e he
    rw [hcurrent, hnext]
    rw [horder, mem_append, mem_singleton] at he
    rcases he with he | rfl
    · exact (h.fresh e he).trans (Nat.le_succ _)
    · exact hnext.le

lemma miss (hgen : s.currentGen.toNat + 1 < 2 ^ 64) {t : LruState Q} (hmap : t.map = s.map)
    (horder : t.order = s.order) (hcurrent : t.currentGen = s.currentGen + 1) : Represents t l := by
  refine ⟨hmap ▸ h.lookup, h.nodup, by rw [horder, hmap, h.order], ?_⟩
  intro e he
  rw [hcurrent, UInt64.toNat_add, UInt64.toNat_one, Nat.mod_eq_of_lt hgen]
  exact (h.fresh e (horder ▸ he)).trans (Nat.le_succ _)

end Represents

section

variable {capacity : ℕ} {oldest : String × UInt64} {rest queue : List (String × UInt64)}

lemma evict_full (hfull : capacity ≤ s.mapLen) (hqueue : queue.filter (isCurrent s.map) = oldest :: rest) :
    ∃ back, back <:+ queue ∧ back.filter (isCurrent s.map) = rest ∧
      s.evict capacity queue =
        { s with map := s.map.erase oldest.1, order := back, evictions := s.evictions + 1 } := by
  induction queue with
  | nil => cases hqueue
  | cons e queue ih =>
    rw [evict, if_pos hfull]
    cases hcurrent : isCurrent s.map e with
    | true =>
      rw [filter_cons_of_pos hcurrent] at hqueue
      cases hqueue
      exact ⟨queue, suffix_cons _ queue, rfl, rfl⟩
    | false =>
      rw [filter_cons_of_neg (by simp [hcurrent])] at hqueue
      obtain ⟨back, hback, hrest, hevict⟩ := ih hqueue
      exact ⟨back, hback.trans (suffix_cons e queue), hrest, hevict⟩

lemma evict_currentGen (g : UInt64) :
    evict capacity { s with currentGen := g } queue = { s.evict capacity queue with currentGen := g } := by
  induction queue with
  | nil => rfl
  | cons e queue ih =>
    by_cases hfull : s.mapLen ≥ capacity
    · have hsame : mapLen { s with currentGen := g } ≥ capacity := hfull
      rw [evict, evict, if_pos hfull, if_pos hsame]
      split_ifs
      · rfl
      · exact ih
    · have hsame : ¬mapLen { s with currentGen := g } ≥ capacity := hfull
      rw [evict, evict, if_neg hfull, if_neg hsame]

lemma evict_room (hroom : s.mapLen < capacity) : s.evict capacity queue = { s with order := queue } := by
  cases queue with
  | nil => rfl
  | cons e queue => rw [evict, if_neg (by omega)]

end

namespace Represents

lemma evict_full {e : String × Q × UInt64} (h : Represents s (e :: l)) {capacity : ℕ} (hfull : capacity ≤ s.mapLen) :
    Represents (s.evict capacity s.order) l ∧ (s.evict capacity s.order).currentGen = s.currentGen := by
  obtain ⟨back, hback, hrest, hevict⟩ := LruState.evict_full hfull h.order
  rw [hevict]
  obtain ⟨hnotMem, hnodup⟩ := nodup_cons.mp h.nodup
  have hkeep : ∀ x ∈ l, x.1 ≠ e.1 := fun x hx heq => hnotMem (heq ▸ mem_map_of_mem hx)
  refine ⟨⟨?_, hnodup, ?_, ?_⟩, rfl⟩
  · intro k x
    by_cases hk : k = e.1
    · subst hk
      simpa [Finmap.lookup_erase] using fun hx => hkeep (e.1, x) hx rfl
    · have hne : (k, x) ≠ e := fun heq => hk (congrArg Prod.fst heq)
      simp [Finmap.lookup_erase_ne hk, h.lookup, hne]
  · rw [filter_congr fun x _ => isCurrent_erase, ← filter_filter, hrest, filter_eq_self]
    intro x hx
    obtain ⟨y, hy, rfl⟩ := mem_map.mp hx
    exact decide_eq_true (hkeep y hy)
  · intro x hx
    exact h.fresh x (hback.subset hx)

lemma foldr_compactStep {map : Finmap fun _ : String => Q × UInt64} {queue : List (String × UInt64)}
    (hnodup : ((queue.filter (isCurrent map)).map Prod.fst).Nodup) :
    queue.foldr (fun e done => compactStep map done e) (∅, []) =
      (((queue.filter (isCurrent map)).map Prod.fst).toFinset, queue.filter (isCurrent map)) := by
  induction queue with
  | nil => rfl
  | cons e queue ih =>
    cases hcurrent : isCurrent map e with
    | true =>
      rw [filter_cons_of_pos hcurrent] at hnodup ⊢
      obtain ⟨hnotMem, hnodup⟩ := nodup_cons.mp hnodup
      rw [foldr_cons, ih hnodup, compactStep, if_pos]
      · rw [map_cons, toFinset_cons]
      · rw [hcurrent, Bool.true_and, decide_eq_true_eq, mem_toFinset]
        exact hnotMem
    | false =>
      rw [filter_cons_of_neg (by simp [hcurrent])] at hnodup ⊢
      rw [foldr_cons, ih hnodup, compactStep, if_neg (by simp [hcurrent])]

lemma compact_eq (h : Represents s l) : s.compact = { s with order := s.order.filter (isCurrent s.map) } := by
  have hnodup : ((s.order.filter (isCurrent s.map)).map Prod.fst).Nodup := by
    rw [h.order, map_map]
    exact h.nodup
  rw [LruState.compact, foldl_reverse, foldr_compactStep hnodup]

lemma compact (h : Represents s l) : Represents s.compact l := by
  rw [h.compact_eq]
  refine ⟨h.lookup, h.nodup, ?_, ?_⟩
  · simp only [filter_filter, Bool.and_self]
    exact h.order
  · intro e he
    exact h.fresh e (mem_of_mem_filter he)

end Represents

end LruState

def CacheCall.use (l : Lru String Q) : CacheCall Q → Lru String Q
  | get key => (l.get key).2
  | put key query => l.put key query
  | clear => l.clear

def CacheCall.isClear : CacheCall Q → Bool
  | clear => true
  | _ => false

variable (calls : List (CacheCall Q))

def sinceClear : ℕ :=
  (calls.reverse.takeWhile fun call => !call.isClear).length

variable (call : CacheCall Q)

lemma sinceClear_concat : sinceClear (calls ++ [call]) = if call.isClear then 0 else sinceClear calls + 1 := by
  rw [sinceClear, reverse_append, reverse_singleton, singleton_append, takeWhile_cons]
  cases call.isClear <;> rfl

namespace CompiledQueryCache

open LruState

structure Refines (cache : CompiledQueryCache Q) (lru : Lru String Q) (l : List (String × Q × UInt64)) : Prop where
  capacity : cache.capacity = lru.capacity
  inner : cache.inner.Represents l
  entries : lru.entries = l.map fun e => (e.1, e.2.1)

variable {cache : CompiledQueryCache Q} {lru : Lru String Q} {l : List (String × Q × UInt64)} {key : String}

namespace Refines

section

variable (h : Refines cache lru l)

include h

lemma keys : lru.entries.map Prod.fst = l.map Prod.fst := by
  rw [h.entries, map_map]
  rfl

lemma len : cache.len = lru.len := by
  rw [CompiledQueryCache.len, h.inner.mapLen, Lru.len, h.entries, length_map]

lemma get_fst : (cache.get key).1 = (lru.get key).1 := by
  rw [CompiledQueryCache.get]
  split
  · rename_i compiled g hlookup
    have hmem : (key, compiled) ∈ lru.entries := by
      rw [h.entries]
      exact mem_map_of_mem ((h.inner.lookup key _).mp hlookup)
    rw [Lru.get_of_mem hmem]
  · rename_i hlookup
    have hnotMem : key ∉ lru.entries.map Prod.fst := by
      rw [h.keys]
      exact h.inner.lookup_eq_none.mp hlookup
    rw [Lru.get_of_notMem hnotMem]

lemma use_mem (hmem : key ∈ l.map Prod.fst) (query : Q) (g : UInt64) : (lru.use key query).entries =
      (l.filter (fun e => e.1 ≠ key) ++ [(key, query, g)]).map fun e => (e.1, e.2.1) := by
  have hkept : kept lru.capacity key lru.entries = forget key lru.entries := by
    rw [kept, if_pos (h.keys ▸ hmem)]
  rw [Lru.entries_use, hkept, h.entries, forget, filter_map, map_append]
  rfl

lemma get (hgen : cache.inner.currentGen.toNat + 1 < 2 ^ 64) :
    ∃ l', Refines (cache.get key).2 (lru.get key).2 l' := by
  rw [CompiledQueryCache.get]
  split
  · rename_i compiled g hlookup
    have hmem := (h.inner.lookup key _).mp hlookup
    rw [Lru.get_of_mem (h.entries ▸ mem_map_of_mem hmem)]
    exact ⟨_, h.capacity, h.inner.touch hgen compiled rfl rfl rfl, h.use_mem (mem_map_of_mem hmem) _ _⟩
  · rename_i hlookup
    have hnotMem := h.inner.lookup_eq_none.mp hlookup
    rw [Lru.get_of_notMem (h.keys ▸ hnotMem)]
    exact ⟨l, h.capacity, h.inner.miss hgen rfl rfl rfl, h.entries⟩

lemma evict (hnotMem : key ∉ l.map Prod.fst) :
    ∃ l', (cache.inner.evict cache.capacity cache.inner.order).Represents l' ∧
      (cache.inner.evict cache.capacity cache.inner.order).currentGen = cache.inner.currentGen ∧
      kept lru.capacity key lru.entries = l'.map (fun e => (e.1, e.2.1)) ∧ key ∉ l'.map Prod.fst := by
  have hlength : lru.entries.length = cache.inner.mapLen := by rw [h.entries, length_map, h.inner.mapLen]
  rw [kept, if_neg (h.keys ▸ hnotMem), hlength, ← h.capacity]
  by_cases hroom : cache.inner.mapLen < cache.capacity
  · rw [if_pos hroom, evict_room hroom]
    exact ⟨l, h.inner, rfl, h.entries, hnotMem⟩
  · rw [if_neg hroom]
    have hpos : 0 < l.length := by
      have := lru.pos
      rw [← h.inner.mapLen, ← h.capacity] at *
      omega
    obtain ⟨e, l', rfl⟩ := exists_cons_of_length_pos hpos
    obtain ⟨hrepresents, hcurrent⟩ := h.inner.evict_full (Nat.le_of_not_lt hroom)
    refine ⟨l', hrepresents, hcurrent, ?_, fun hmem => hnotMem (mem_cons_of_mem _ hmem)⟩
    rw [h.entries]
    rfl

lemma put_new (hgen : cache.inner.currentGen.toNat + 1 < 2 ^ 64) (hlookup : cache.inner.map.lookup key = none)
    (query : Q) :
    ∃ t l', cache.put key query =
        { cache with inner := if t.order.length > cache.capacity * 4 then t.compact else t } ∧
      t.Represents l' ∧ (lru.put key query).entries = l'.map fun e => (e.1, e.2.1) := by
  obtain ⟨l', hrepresents, hcurrent, hkept, hnotMem⟩ := h.evict (h.inner.lookup_eq_none.mp hlookup)
  have htouch := fun t => @LruState.Represents.touch _ _ _ key hrepresents (hcurrent ▸ hgen) query t
  rw [hcurrent] at htouch
  rw [CompiledQueryCache.put, Lru.put]
  simp only [hlookup, evict_currentGen]
  refine ⟨{ map := _, order := _, currentGen := _, hits := _, misses := _, evictions := _ }, _, rfl,
    htouch _ rfl rfl rfl, ?_⟩
  rw [Lru.entries_use, hkept, filter_eq_self.mpr, map_append]
  · rfl
  · intro e he
    exact decide_eq_true fun heq => hnotMem (heq ▸ mem_map_of_mem he)

lemma put (hgen : cache.inner.currentGen.toNat + 1 < 2 ^ 64) (query : Q) :
    ∃ l', Refines (cache.put key query) (lru.put key query) l' := by
  cases hlookup : cache.inner.map.lookup key with
  | some x =>
    have hmem := (h.inner.lookup key _).mp hlookup
    simp only [CompiledQueryCache.put, hlookup]
    exact ⟨_, h.capacity, h.inner.touch hgen query rfl rfl rfl, h.use_mem (mem_map_of_mem hmem) _ _⟩
  | none =>
    obtain ⟨t, l', hput, ht, hentries⟩ := h.put_new hgen hlookup query
    rw [hput]
    refine ⟨l', h.capacity, ?_, hentries⟩
    split_ifs
    · exact ht.compact
    · exact ht

lemma clear : Refines cache.clear lru.clear [] :=
  ⟨h.capacity, represents_empty, rfl⟩

lemma run (hgen : call.isClear = false → cache.inner.currentGen.toNat + 1 < 2 ^ 64) :
    ∃ l', Refines (call.run cache) (call.use lru) l' := by
  cases call with
  | get key => exact h.get (hgen rfl)
  | put key query => exact h.put (hgen rfl) query
  | clear => exact ⟨[], h.clear⟩

end

end Refines

lemma currentGen_run :
    (call.run cache).inner.currentGen = if call.isClear then 0 else cache.inner.currentGen + 1 := by
  cases call with
  | get key =>
    simp only [run, CompiledQueryCache.get]
    split <;> rfl
  | put key query =>
    simp only [run, CompiledQueryCache.put, evict_currentGen]
    split
    · rfl
    · split_ifs
      all_goals first | rfl | contradiction
  | clear => rfl

end CompiledQueryCache

variable (cache : CompiledQueryCache Q) (calls : List (CacheCall Q))

lemma after_concat : cache.after (calls ++ [call]) = call.run (cache.after calls) := by
  rw [CompiledQueryCache.after, foldl_concat]
  rfl

/-- At no moment have the calls since the cache was cleared used up the generations. -/
def WithinGenerations : Prop := ∀ front, front <+: calls → sinceClear front < 2 ^ 64

namespace WithinGenerations

variable {calls} {call : CacheCall Q} (h : WithinGenerations (calls ++ [call]))

include h

lemma front : WithinGenerations calls := fun front hfront => h front (hfront.trans (prefix_append _ _))

lemma next (hclear : call.isClear = false) : sinceClear calls + 1 < 2 ^ 64 := by
  have hwithin := h _ (prefix_refl _)
  rwa [sinceClear_concat, hclear] at hwithin

end WithinGenerations

open CompiledQueryCache in
lemma refines_after (capacity : ℕ) (hpos : 0 < capacity) (calls : List (CacheCall Q))
    (hcalls : WithinGenerations calls) :
    ((new capacity).after calls).inner.currentGen.toNat = sinceClear calls ∧
      ∃ l, Refines ((new capacity).after calls) (calls.foldl use (Lru.new capacity hpos))
        l := by
  induction calls using reverseRecOn with
  | nil => exact ⟨rfl, [], Nat.max_eq_left hpos, LruState.represents_empty, rfl⟩
  | append_singleton calls call ih =>
    obtain ⟨hgen, l, hrefines⟩ := ih hcalls.front
    rw [after_concat, foldl_concat, currentGen_run, sinceClear_concat]
    refine ⟨?_, hrefines.run call fun hclear => hgen ▸ hcalls.next hclear⟩
    split_ifs with hclear
    · rfl
    · rw [UInt64.toNat_add, hgen]
      exact Nat.mod_eq_of_lt (hcalls.next (Bool.eq_false_of_not_eq_true hclear))

theorem cache_refines_lru (capacity : ℕ) (hpos : 0 < capacity) (calls : List (CacheCall Q))
    (hcalls : WithinGenerations calls) (key : String) :
    let cache := (CompiledQueryCache.new capacity).after calls
    let lru := calls.foldl use (Lru.new capacity hpos)
    (cache.get key).1 = (lru.get key).1 ∧ cache.len = lru.len := by
  obtain ⟨-, l, hrefines⟩ := refines_after capacity hpos calls hcalls
  exact ⟨hrefines.get_fst, hrefines.len⟩

lemma withinGenerations_of_length {calls : List (CacheCall Q)} (h : calls.length < 2 ^ 64) :
    WithinGenerations calls := by
  intro front hfront
  calc sinceClear front ≤ front.reverse.length := (List.takeWhile_prefix _).length_le
    _ = front.length := length_reverse
    _ ≤ calls.length := hfront.length_le
    _ < 2 ^ 64 := h

def evictingCalls : List (CacheCall String) :=
  [.put "k1" "MATCH (n) RETURN n", .put "k2" "MATCH (p:Person) RETURN p", .get "k1",
    .put "k3" "MATCH (m:Movie) RETURN m"]

theorem cache_refines_lru_evicting :
    (((CompiledQueryCache.new 2).after evictingCalls).get "k2").1 = none ∧
      ((CompiledQueryCache.new 2).after evictingCalls).len = 2 := by
  obtain ⟨hget, hlen⟩ :=
    cache_refines_lru 2 (by decide) evictingCalls (withinGenerations_of_length (by decide)) "k2"
  exact ⟨hget.trans (by decide), hlen.trans (by decide)⟩

namespace CompiledQueryCache

lemma after_append (front back : List (CacheCall Q)) : cache.after (front ++ back) = (cache.after front).after back :=
  foldl_append

lemma after_misses {key : String} (hmiss : cache.inner.map.lookup key = none) (n : ℕ) :
    cache.after (replicate n (.get key)) = { cache with inner := { cache.inner with
      currentGen := cache.inner.currentGen + UInt64.ofNat n
      misses := cache.inner.misses + UInt64.ofNat n } } := by
  induction n with
  | zero => simp [after]
  | succ n ih =>
    rw [replicate_succ', after_concat, ih, run, CompiledQueryCache.get]
    simp only [hmiss]
    simp [UInt64.ofNat_add, UInt64.add_assoc]

end CompiledQueryCache

lemma use_misses (lru : Lru String Q) {key : String} (hmiss : key ∉ lru.entries.map Prod.fst) (n : ℕ) :
    (replicate n (get key)).foldl use lru = lru := by
  induction n with
  | zero => rfl
  | succ n ih => rw [replicate_succ', foldl_concat, ih, use, Lru.get_of_notMem hmiss]

def wrappingStart : List (CacheCall String) := [.put "a" "A", .put "b" "B", .get "a"]

def wrappingCalls : List (CacheCall String) :=
  wrappingStart ++ List.replicate (2 ^ 64 - 3) (.get "z") ++ [.get "a", .put "c" "C"]

theorem recent_entry_evicted :
    (((CompiledQueryCache.new 2).after wrappingCalls).get "a").1 = none ∧
      ((wrappingCalls.foldl CacheCall.use (Lru.new 2 (by decide))).get "a").1 = some "A" := by
  constructor
  · rw [wrappingCalls, CompiledQueryCache.after_append, CompiledQueryCache.after_append,
      CompiledQueryCache.after_misses _ (by decide)]
    decide
  · rw [wrappingCalls, foldl_append, foldl_append, use_misses _ (by decide)]
    decide

namespace CompiledQueryCache

def renews (n : ℕ) : CacheCall Q → ℕ
  | .get key => if (cache.inner.map.lookup key).isSome then n + 1 else n
  | .put key _ => if (cache.inner.map.lookup key).isSome then n + 1 else 0
  | .clear => 0

/-- How many calls have renewed an entry since the last new entry or the last `clear`. -/
def renewals : ℕ :=
  (calls.foldl (fun p call => (call.run p.1, p.1.renews p.2 call)) (cache, 0)).2

lemma renewals_concat :
    cache.renewals (calls ++ [call]) = (cache.after calls).renews (cache.renewals calls) call := by
  have hfst : ∀ p : CompiledQueryCache Q × ℕ,
      (calls.foldl (fun p call => (call.run p.1, p.1.renews p.2 call)) p).1 = p.1.after calls := by
    induction calls with
    | nil => exact fun p => rfl
    | cons call calls ih => exact fun p => ih _
  rw [renewals, foldl_concat, hfst, renewals]

lemma Refines.order_run {cache : CompiledQueryCache Q} {lru : Lru String Q} {l : List (String × Q × UInt64)}
    (h : Refines cache lru l) (call : CacheCall Q)
    (hgen : call.isClear = false → cache.inner.currentGen.toNat + 1 < 2 ^ 64) {capacity n : ℕ}
    (hcapacity : cache.capacity = capacity) (hn : cache.inner.order.length ≤ 4 * capacity + n) :
    (call.run cache).capacity = capacity ∧
      (call.run cache).inner.order.length ≤ 4 * capacity + cache.renews n call := by
  subst hcapacity
  cases call with
  | get key =>
    cases hlookup : cache.inner.map.lookup key <;>
      simp [CacheCall.run, CompiledQueryCache.get, renews, hlookup] <;> omega
  | put key query =>
    cases hlookup : cache.inner.map.lookup key with
    | some x =>
      simp [CacheCall.run, CompiledQueryCache.put, renews, hlookup]
      omega
    | none =>
      obtain ⟨t, l', hput, ht, hentries⟩ := h.put_new (hgen rfl) hlookup query
      have hlen : l'.length ≤ cache.capacity := by
        rw [h.capacity, ← length_map, ← hentries]
        exact (lru.put key query).bounded
      rw [CacheCall.run, hput]
      refine ⟨rfl, ?_⟩
      dsimp only
      split_ifs with hlong
      · rw [ht.compact_eq, ht.order, length_map]
        omega
      · omega
  | clear => exact ⟨rfl, Nat.zero_le _⟩

lemma order_after (capacity : ℕ) (hpos : 0 < capacity) (calls : List (CacheCall Q)) (hcalls : WithinGenerations calls) :
    ((new capacity).after calls).capacity = capacity ∧
      ((new capacity).after calls).inner.order.length ≤ 4 * capacity + (new capacity).renewals calls := by
  induction calls using reverseRecOn with
  | nil => exact ⟨Nat.max_eq_left hpos, Nat.zero_le _⟩
  | append_singleton calls call ih =>
    obtain ⟨hgen, l, hrefines⟩ := refines_after capacity hpos calls hcalls.front
    obtain ⟨hcapacity, hlength⟩ := ih hcalls.front
    rw [after_concat, renewals_concat]
    exact hrefines.order_run call (fun hclear => hgen ▸ hcalls.next hclear) hcapacity hlength

lemma order_length_of_renews {call : CacheCall Q} (h : cache.renews 0 call = 1) :
    (call.run cache).inner.order.length = cache.inner.order.length + 1 := by
  cases call with
  | get key | put key query =>
    cases hlookup : cache.inner.map.lookup key with
    | none => simp [renews, hlookup] at h
    | some x => simp [CacheCall.run, CompiledQueryCache.get, CompiledQueryCache.put, hlookup]
  | clear => cases h

lemma renews_le_one {call : CacheCall Q} (h : cache.renews 0 call ≠ 1) : cache.renews 1 call ≤ 1 := by
  cases call with
  | get key | put key query => cases hlookup : cache.inner.map.lookup key <;> simp_all [renews]
  | clear => exact Nat.zero_le 1

theorem order_length_le (capacity : ℕ) (hpos : 0 < capacity) (calls : List (CacheCall Q))
    (hcalls : WithinGenerations calls) :
    ((new capacity).after calls).inner.order.length ≤ 4 * capacity + (new capacity).renewals calls ∧
      ((∀ front, front <+: calls → ((new capacity).after front).inner.order.length ≤ 4 * capacity + 1) ↔
        ∀ front call, front ++ [call] <+: calls → ((new capacity).after front).renews 0 call = 1 →
          ((new capacity).after front).inner.order.length ≤ 4 * capacity) := by
  refine ⟨(order_after capacity hpos calls hcalls).2, fun h front call hfront hrenews => ?_, fun h front hfront => ?_⟩
  · have hlength := h _ hfront
    rw [after_concat, order_length_of_renews _ hrenews] at hlength
    omega
  · induction front using reverseRecOn with
    | nil => exact Nat.zero_le _
    | append_singleton front call ih =>
      have hwithin : WithinGenerations (front ++ [call]) := fun other hother => hcalls other (hother.trans hfront)
      obtain ⟨hgen, l, hrefines⟩ := refines_after capacity hpos front hwithin.front
      have hcapacity := (order_after capacity hpos front hwithin.front).1
      have hrun : ∀ {n}, ((new capacity).after front).inner.order.length ≤ 4 * capacity + n → _ :=
        hrefines.order_run call (fun hclear => hgen ▸ hwithin.next hclear) hcapacity
      rw [after_concat]
      by_cases hrenews : ((new capacity).after front).renews 0 call = 1
      · exact hrenews ▸ (hrun (h front call hfront hrenews)).2
      · have hbefore := ih ((prefix_append _ _).trans hfront)
        exact (hrun hbefore).2.trans (Nat.add_le_add_left (renews_le_one _ hrenews) _)

theorem order_length_le_renewed :
    ((new 1).after [.put "a" "A", .get "a", .put "b" "B", .get "b"]).inner.order.length ≤ 4 * 1 + 1 :=
  (order_length_le 1 (by decide) _ (withinGenerations_of_length (by decide))).1

theorem order_length_of_hits :
    ((new 1).after (.put "a" "A" :: List.replicate 5 (.get "a"))).inner.order.length = 6 := by
  decide

end CompiledQueryCache

end Voyager
