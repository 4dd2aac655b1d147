import Mathlib.Data.List.AList
import Mathlib.Tactic

/-! Texts with placeholders and the bindings written for them. -/

namespace Voyager.Lib

open List Option

inductive Woven : List String → String → Prop
  | done (text : String) : Woven [] text
  | piece {ps : List String} {text : String} (gap p : String) :
      Woven ps text → Woven (p :: ps) (gap ++ (p ++ text))

namespace Woven

variable {ps qs : List String} {s t : String}

lemma gap_append (gap : String) (h : Woven ps t) : Woven ps (gap ++ t) := by
  cases h with
  | done => exact done _
  | piece g p h =>
    rw [← String.append_assoc]
    exact piece _ p h

lemma append (hs : Woven ps s) (ht : Woven qs t) : Woven (ps ++ qs) (s ++ t) := by
  induction hs with
  | done s => exact gap_append s ht
  | piece gap p h ih =>
    rw [String.append_assoc, String.append_assoc]
    exact piece gap p ih

end Woven

variable {κ β : Type} [DecidableEq κ]

def overlay (bindings : List (κ × β)) (key : κ) (old : Option β) : Option β :=
  bindings.foldl (fun held b => if b.1 = key then some b.2 else held) old

lemma overlay_append (u v : List (κ × β)) (key : κ) (old : Option β) :
    overlay (u ++ v) key old = overlay v key (overlay u key old) :=
  foldl_append

lemma overlay_or (bindings : List (κ × β)) (key : κ) (old : Option β) :
    overlay bindings key old = (overlay bindings key none).or old := by
  induction bindings using List.reverseRecOn with
  | nil => rfl
  | append_singleton bindings b ih =>
    rw [overlay_append, overlay_append, ih]
    simp only [overlay, foldl_cons, foldl_nil]
    split
    · rfl
    · rfl

lemma overlay_of_notMem {bindings : List (κ × β)} {key : κ} {old : Option β}
    (h : key ∉ bindings.map Prod.fst) : overlay bindings key old = old := by
  induction bindings generalizing old with
  | nil => rfl
  | cons b bindings ih =>
    rw [map_cons, mem_cons, not_or] at h
    rw [overlay, foldl_cons, if_neg (Ne.symm h.1)]
    exact ih h.2

lemma overlay_of_mem {bindings : List (κ × β)} (hnodup : (bindings.map Prod.fst).Nodup) {b : κ × β}
    (hb : b ∈ bindings) (old : Option β) : overlay bindings b.1 old = some b.2 := by
  induction bindings generalizing old with
  | nil => cases hb
  | cons d bindings ih =>
    rw [map_cons, nodup_cons] at hnodup
    rcases List.mem_cons.mp hb with rfl | hb
    · rw [overlay, foldl_cons, if_pos rfl]
      exact overlay_of_notMem hnodup.1
    · rw [overlay, foldl_cons]
      exact ih hnodup.2 hb _

lemma isSome_overlay {bindings : List (κ × β)} {key : κ} :
    (overlay bindings key none).isSome ↔ key ∈ bindings.map Prod.fst := by
  refine ⟨fun h => ?_, fun h => ?_⟩
  · by_contra hkey
    simp [overlay_of_notMem hkey] at h
  · induction bindings with
    | nil => cases h
    | cons b bindings ih =>
      rw [overlay, foldl_cons, ← overlay, overlay_or]
      rcases List.mem_cons.mp h with rfl | h
      · simp
      · simp [ih h]

lemma lookup_union_eq_or {γ : κ → Type} (a b : AList γ) (key : κ) :
    (a ∪ b).lookup key = (a.lookup key).or (b.lookup key) := by
  by_cases h : key ∈ a
  · obtain ⟨x, hx⟩ := Option.isSome_iff_exists.mp (AList.lookup_isSome.mpr h)
    rw [AList.lookup_union_left h, hx, some_or]
  · rw [AList.lookup_union_right h, AList.lookup_eq_none.mpr h, none_or]

def updates (entries : List (κ × β)) (f : κ → β) : κ → β :=
  entries.foldl (fun f entry => Function.update f entry.1 entry.2) f

lemma updates_of_notMem {entries : List (κ × β)} {f : κ → β} {k : κ} (hk : k ∉ entries.map Prod.fst) :
    updates entries f k = f k := by
  induction entries generalizing f with
  | nil => rfl
  | cons entry entries ih =>
    rw [map_cons, mem_cons, not_or] at hk
    rw [updates, foldl_cons, ← updates, ih hk.2, Function.update_of_ne hk.1]

lemma updates_congr {entries : List (κ × β)} {f g : κ → β} (h : ∀ k, k ∉ entries.map Prod.fst → f k = g k) :
    updates entries f = updates entries g := by
  induction entries generalizing f g with
  | nil => exact funext fun k => h k not_mem_nil
  | cons entry entries ih =>
    rw [updates, updates, foldl_cons, foldl_cons, ← updates, ← updates]
    apply ih
    intro k hk
    by_cases hkey : k = entry.1
    · rw [hkey, Function.update_self, Function.update_self]
    · rw [Function.update_of_ne hkey, Function.update_of_ne hkey]
      apply h
      rw [map_cons, mem_cons, not_or]
      exact ⟨hkey, hk⟩

lemma updates_twice (entries : List (κ × β)) (f : κ → β) : updates entries (updates entries f) = updates entries f :=
  updates_congr fun _ hk => updates_of_notMem hk

end Voyager.Lib
