import Mathlib.Tactic

namespace Voyager.Lib

open List Option

section

variable {K V : Type*} [DecidableEq K]

def forget (k : K) (es : List (K × V)) : List (K × V) := es.filter fun e => e.1 ≠ k

def kept (capacity : ℕ) (k : K) (es : List (K × V)) : List (K × V) :=
  if k ∈ es.map Prod.fst then forget k es
  else if es.length < capacity then es
  else es.tail

variable {capacity : ℕ} {k : K} {es : List (K × V)}

lemma forget_sublist : (forget k es).Sublist es := filter_sublist

lemma notMem_forget : k ∉ (forget k es).map Prod.fst := by simp [forget]

lemma length_forget_lt (h : k ∈ es.map Prod.fst) : (forget k es).length < es.length := by
  obtain ⟨e, he, rfl⟩ := List.mem_map.mp h
  exact List.length_filter_lt_length_iff_exists.mpr ⟨e, he, by simp⟩

lemma kept_sublist : (kept capacity k es).Sublist es := by
  rw [kept]
  split_ifs
  · exact forget_sublist
  · exact List.Sublist.refl _
  · exact tail_sublist _

lemma notMem_kept : k ∉ (kept capacity k es).map Prod.fst := by
  by_cases hk : k ∈ es.map Prod.fst
  · rw [kept, if_pos hk]
    exact notMem_forget
  · intro hkept
    exact hk ((kept_sublist.map Prod.fst).subset hkept)

lemma length_kept_lt (hpos : 0 < capacity) (hbounded : es.length ≤ capacity) :
    (kept capacity k es).length < capacity := by
  rw [kept]
  split_ifs with hk hroom
  · exact (length_forget_lt hk).trans_le hbounded
  · exact hroom
  · rw [length_tail]
    omega

end

structure Lru (K V : Type*) where
  capacity : ℕ
  entries : List (K × V)
  pos : 0 < capacity
  nodup : (entries.map Prod.fst).Nodup
  bounded : entries.length ≤ capacity

namespace Lru

variable {K V : Type*} [DecidableEq K]

def new (capacity : ℕ) (pos : 0 < capacity) : Lru K V := ⟨capacity, [], pos, nodup_nil, Nat.zero_le _⟩

variable (l : Lru K V)

def use (k : K) (v : V) : Lru K V where
  capacity := l.capacity
  entries := kept l.capacity k l.entries ++ [(k, v)]
  pos := l.pos
  nodup := by
    rw [map_append, nodup_append']
    refine ⟨l.nodup.sublist (kept_sublist.map Prod.fst), nodup_singleton k, ?_⟩
    exact List.disjoint_singleton.mpr notMem_kept
  bounded := by
    rw [length_append, length_singleton]
    exact length_kept_lt l.pos l.bounded

lemma entries_use (k : K) (v : V) : (l.use k v).entries = kept l.capacity k l.entries ++ [(k, v)] := rfl

def get? (k : K) : Option V := (l.entries.find? fun e => e.1 = k).map Prod.snd

def get (k : K) : Option V × Lru K V :=
  match l.get? k with
  | some v => (some v, l.use k v)
  | none => (none, l)

def put (k : K) (v : V) : Lru K V := l.use k v

def clear : Lru K V := new l.capacity l.pos

def len : ℕ := l.entries.length

lemma get?_eq_some {l : Lru K V} {k : K} {v : V} : l.get? k = some v ↔ (k, v) ∈ l.entries := by
  rw [get?, map_eq_some_iff]
  constructor
  · rintro ⟨⟨k', v'⟩, hfind, rfl⟩
    obtain rfl : k' = k := by simpa using find?_some hfind
    exact mem_of_find?_eq_some hfind
  · intro hmem
    cases hfind : l.entries.find? fun e => e.1 = k with
    | none => exact absurd (decide_eq_true rfl) (List.find?_eq_none.mp hfind _ hmem)
    | some e =>
      have hkey : e.1 = k := by simpa using find?_some hfind
      exact ⟨e, rfl, congrArg Prod.snd (inj_on_of_nodup_map l.nodup
        (mem_of_find?_eq_some hfind) hmem hkey)⟩

lemma get_of_mem {l : Lru K V} {k : K} {v : V} (h : (k, v) ∈ l.entries) : l.get k = (some v, l.use k v) := by
  rw [get, get?_eq_some.mpr h]

lemma get_of_notMem {l : Lru K V} {k : K} (h : k ∉ l.entries.map Prod.fst) : l.get k = (none, l) := by
  have hnone : l.get? k = none := by
    apply Option.eq_none_iff_forall_ne_some.mpr
    intro v hv
    exact h (mem_map_of_mem (get?_eq_some.mp hv))
  rw [get, hnone]

end Lru

end Voyager.Lib
