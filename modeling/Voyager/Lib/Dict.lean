import Mathlib.Tactic

/-! Dictionaries that keep the order in which their keys were first written. -/

namespace Voyager.Lib

open List Option

structure Dict (α β : Type) where
  entries : List (α × β)
  nodup : (entries.map Prod.fst).Nodup

namespace Dict

variable {α β γ : Type} [DecidableEq α] (d : Dict α β)

def keys : List α := d.entries.map Prod.fst

variable (a : α)

def get? : Option β := (d.entries.find? fun e => decide (e.1 = a)).map Prod.snd

def empty : Dict α β := ⟨[], nodup_nil⟩

def isEmpty : Bool := d.entries.isEmpty

def overwrite (b : β) (e : α × β) : α × β := if e.1 = a then (a, b) else e

@[simp] lemma fst_overwrite (b : β) (e : α × β) : (overwrite a b e).1 = e.1 := by
  by_cases h : e.1 = a <;> simp [overwrite, h]

lemma map_fst_overwrite (b : β) (es : List (α × β)) : (es.map (overwrite a b)).map Prod.fst = es.map Prod.fst := by
  rw [List.map_map]
  exact List.map_congr_left fun e _ => fst_overwrite a b e

def set (b : β) : Dict α β :=
  if h : a ∈ d.keys then ⟨d.entries.map (overwrite a b), by rw [map_fst_overwrite]; exact d.nodup⟩
  else ⟨d.entries ++ [(a, b)], by
    rw [map_append]
    exact nodup_append'.mpr ⟨d.nodup, by simp, by simpa [keys] using h⟩⟩

def mapValues (f : β → γ) (d : Dict α β) : Dict α γ :=
  ⟨d.entries.map fun e => (e.1, f e.2), by simpa [Function.comp_def] using d.nodup⟩

lemma find?_eq_none {es : List (α × β)} {a : α} :
    es.find? (fun e => decide (e.1 = a)) = none ↔ a ∉ es.map Prod.fst := by
  simp only [List.find?_eq_none, decide_eq_true_eq, List.mem_map, not_exists, not_and]

lemma get?_eq_none {d : Dict α β} {a : α} : d.get? a = none ↔ a ∉ d.keys := by
  rw [get?, map_eq_none_iff, find?_eq_none, keys]

lemma get?_eq_some {d : Dict α β} {a : α} {b : β} : d.get? a = some b ↔ (a, b) ∈ d.entries := by
  obtain ⟨es, hnodup⟩ := d
  simp only [get?]
  induction es with
  | nil => simp
  | cons e es ih =>
    obtain ⟨a', b'⟩ := e
    rw [map_cons, nodup_cons] at hnodup
    by_cases h : a' = a
    · subst h
      have hmem : (a', b) ∉ es := fun hm => hnodup.1 (List.mem_map.mpr ⟨_, hm, rfl⟩)
      simp [hmem, eq_comm]
    · rw [find?_cons_of_neg (by simpa using h), ih hnodup.2]
      simp [Ne.symm h]

@[simp] lemma get?_empty : (empty : Dict α β).get? a = none := rfl

lemma get?_set (a a' : α) (b : β) : (d.set a b).get? a' = if a' = a then some b else d.get? a' := by
  by_cases h : a ∈ d.keys
  · have hfind : (d.set a b).get? a' =
        ((d.entries.find? fun e => decide (e.1 = a')).map (overwrite a b)).map Prod.snd := by
      simp [set, h, get?, find?_map, Function.comp_def]
    rw [hfind, get?]
    cases hd : d.entries.find? fun e => decide (e.1 = a') with
    | none =>
      have hne : a' ≠ a := fun heq => find?_eq_none.mp hd (heq ▸ h)
      simp [hne]
    | some e =>
      have he : e.1 = a' := by simpa using find?_some hd
      by_cases ha : a' = a <;> simp [overwrite, he, ha]
  · have hfind := find?_eq_none.mpr h
    by_cases ha : a' = a
    · simp [set, h, get?, find?_append, ha, hfind]
    · simp [set, h, get?, find?_append, ha, Ne.symm ha]

@[simp] lemma get?_set_self (b : β) : (d.set a b).get? a = some b := by
  simp [get?_set]

lemma get?_set_of_ne {a a' : α} (h : a' ≠ a) (b : β) : (d.set a b).get? a' = d.get? a' := by
  simp [get?_set, h]

@[simp] lemma get?_mapValues (f : β → γ) (d : Dict α β) (a : α) : (d.mapValues f).get? a = (d.get? a).map f := by
  simp [get?, mapValues, find?_map, Function.comp_def]

def push (d : Dict α (List β)) (a : α) (b : β) : Dict α (List β) := d.set a ((d.get? a).getD [] ++ [b])

lemma get?_foldl_push (k : β → α) (bs : List β) (d : Dict α (List β)) (a : α) :
    (bs.foldl (fun d b => d.push (k b) b) d).get? a =
      if (bs.filter (k · = a)) = [] then d.get? a
      else some ((d.get? a).getD [] ++ bs.filter (k · = a)) := by
  induction bs generalizing d with
  | nil => simp
  | cons b bs ih =>
    rw [foldl_cons, ih, push, get?_set]
    by_cases h : a = k b
    · subst h
      by_cases hnil : bs.filter (k · = k b) = [] <;> simp [hnil]
    · simp [h, Ne.symm h]

end Dict

end Voyager.Lib
