import Voyager.Lib.Placeholders

/-! Replacing the occurrences of a pattern that end at a word boundary, as a regular expression with a final
`\b` finds them. -/

namespace Voyager.Lib

open List

variable {α : Type} [DecidableEq α] (word : α → Bool)

def BoundedPrefix (pat text : List α) : Prop :=
  pat <+: text ∧ pat.getLast?.any word ≠ (text.drop pat.length).head?.any word

instance (pat text : List α) : Decidable (BoundedPrefix word pat text) :=
  inferInstanceAs (Decidable (_ ∧ _))

def replaceBoundedFrom (pat rep : List α) : ℕ → List α → List α
  | _, [] => []
  | skip + 1, _ :: cs => replaceBoundedFrom pat rep skip cs
  | 0, c :: cs =>
    if BoundedPrefix word pat (c :: cs) then rep ++ replaceBoundedFrom pat rep (pat.length - 1) cs
    else c :: replaceBoundedFrom pat rep 0 cs

def replaceBounded (pat rep text : List α) : List α := replaceBoundedFrom word pat rep 0 text

def found (pat : List α) : List α → Bool
  | [] => false
  | c :: cs => decide (BoundedPrefix word pat (c :: cs)) || found pat cs

section

variable {word} {pat rep : List α}

lemma replaceBoundedFrom_eq (n : ℕ) (text : List α) :
    replaceBoundedFrom word pat rep n text = replaceBounded word pat rep (text.drop n) := by
  induction text generalizing n with
  | nil => cases n <;> rfl
  | cons c cs ih =>
    cases n with
    | zero => rfl
    | succ n => exact ih n

@[simp] lemma replaceBounded_nil : replaceBounded word pat rep [] = [] := rfl

lemma replaceBounded_cons_of_absent {c : α} {cs : List α} (h : ¬ BoundedPrefix word pat (c :: cs)) :
    replaceBounded word pat rep (c :: cs) = c :: replaceBounded word pat rep cs := by
  simp [replaceBounded, replaceBoundedFrom, h]

lemma replaceBounded_pattern (hpat : pat ≠ []) {text : List α} (h : BoundedPrefix word pat (pat ++ text)) :
    replaceBounded word pat rep (pat ++ text) = rep ++ replaceBounded word pat rep text := by
  obtain ⟨p, ps, rfl⟩ := exists_cons_of_ne_nil hpat
  rw [cons_append] at h ⊢
  rw [replaceBounded, replaceBoundedFrom, if_pos h, replaceBoundedFrom_eq, length_cons,
    Nat.add_sub_cancel, drop_left]

lemma replaceBounded_of_not_found {text : List α} (h : found word pat text = false) :
    replaceBounded word pat rep text = text := by
  induction text with
  | nil => rfl
  | cons c cs ih =>
    simp only [found, Bool.or_eq_false_iff, decide_eq_false_iff_not] at h
    rw [replaceBounded_cons_of_absent h.1, ih h.2]

omit [DecidableEq α] in
lemma not_boundedPrefix_of_ne {p c : α} {ps cs : List α} (h : c ≠ p) : ¬ BoundedPrefix word (p :: ps) (c :: cs) :=
  fun hb => not_prefix_of_ne h hb.1

lemma not_found_of_notMem {p : α} {ps text : List α} (h : p ∉ text) : found word (p :: ps) text = false := by
  induction text with
  | nil => rfl
  | cons c cs ih =>
    rw [mem_cons, not_or] at h
    simp [found, not_boundedPrefix_of_ne (Ne.symm h.1), ih h.2]

omit [DecidableEq α] in
lemma boundedPrefix_append_cons {x : α} (hx : x ∉ pat) (hword : word x = false) (a b : List α) :
    BoundedPrefix word pat (a ++ x :: b) ↔ BoundedPrefix word pat a := by
  have hiff : pat <+: a ++ x :: b ↔ pat <+: a :=
    ⟨prefix_of_prefix_append_cons hx, fun h => h.trans (prefix_append a _)⟩
  rw [BoundedPrefix, BoundedPrefix, hiff]
  refine and_congr_right fun hbegins => ?_
  obtain ⟨t, rfl⟩ := hbegins
  rw [append_assoc, drop_left, drop_left]
  cases t with
  | nil => simp [hword]
  | cons d t => simp

lemma replaceBounded_append_cons {x : α} (hx : x ∉ pat) (hword : word x = false) (hpat : pat ≠ []) (a b : List α) :
    replaceBounded word pat rep (a ++ x :: b) =
      replaceBounded word pat rep a ++ x :: replaceBounded word pat rep b := by
  induction hn : a.length using Nat.strong_induction_on generalizing a with
  | h n ih =>
  have hiff := boundedPrefix_append_cons hx hword a b
  by_cases hbegins : BoundedPrefix word pat a
  · obtain ⟨t, rfl⟩ := hbegins.1
    have hlt : t.length < n := by
      have := List.length_pos_iff.mpr hpat
      simp only [length_append] at hn
      omega
    have hlong := hiff.mpr hbegins
    rw [append_assoc] at hlong ⊢
    rw [replaceBounded_pattern hpat hlong, ih _ hlt t rfl, replaceBounded_pattern hpat hbegins,
      append_assoc]
  · cases a with
    | nil => exact replaceBounded_cons_of_absent (mt hiff.mp hbegins)
    | cons c a =>
      rw [length_cons] at hn
      rw [cons_append] at hiff ⊢
      rw [replaceBounded_cons_of_absent (mt hiff.mp hbegins), ih _ (by omega) a rfl,
        replaceBounded_cons_of_absent hbegins, cons_append]

end

def Diverges (sigil : α) (starts : α → Prop) (x u : List α) : Prop :=
  ∃ y z h w, x = y ++ sigil :: z ∧ u = y ++ h :: w ∧ h ≠ sigil ∧ starts h

variable {word} {sigil : α} {starts : α → Prop}

omit [DecidableEq α] in
lemma Diverges.cons {x u : List α} (h : Diverges sigil starts x u) (c : α) :
    Diverges sigil starts (c :: x) (c :: u) := by
  obtain ⟨y, z, d, w, rfl, rfl, hd⟩ := h
  exact ⟨c :: y, z, d, w, rfl, rfl, hd⟩

section

variable {name rep : List α} (hrep : ∃ h w, rep = h :: w ∧ h ≠ sigil ∧ starts h)

include hrep

lemma diverges_of_boundedPrefix {c : α} {cs rest : List α}
    (h : BoundedPrefix word (sigil :: name) (c :: cs)) (hc : rest.head? = some c) :
    Diverges sigil starts rest (replaceBounded word (sigil :: name) rep (c :: cs)) := by
  obtain ⟨t, ht⟩ := h.1
  obtain ⟨d, w, rfl, hd⟩ := hrep
  obtain rfl : sigil = c := (List.cons.inj ht).1
  rw [← ht] at h ⊢
  rw [replaceBounded_pattern (cons_ne_nil _ _) h]
  exact ⟨[], rest.tail, d, _, eq_cons_of_mem_head? hc, rfl, hd⟩

lemma diverges_of_found {x : List α} (h : found word (sigil :: name) x = true) :
    Diverges sigil starts x (replaceBounded word (sigil :: name) rep x) := by
  induction x with
  | nil => simp [found] at h
  | cons c cs ih =>
    by_cases hbegins : BoundedPrefix word (sigil :: name) (c :: cs)
    · exact diverges_of_boundedPrefix hrep hbegins rfl
    · simp only [found, hbegins, decide_false, Bool.false_or] at h
      rw [replaceBounded_cons_of_absent hbegins]
      exact (ih h).cons c

lemma Diverges.replaceBounded {x u : List α} (h : Diverges sigil starts x u) :
    Diverges sigil starts x (replaceBounded word (sigil :: name) rep u) := by
  obtain ⟨y, z, d, w, rfl, rfl, hd⟩ := h
  induction y with
  | nil =>
    rw [nil_append, nil_append, replaceBounded_cons_of_absent (not_boundedPrefix_of_ne hd.1)]
    exact ⟨[], z, d, _, rfl, rfl, hd⟩
  | cons c y ih =>
    rw [cons_append, cons_append]
    by_cases hbegins : BoundedPrefix word (sigil :: name) (c :: (y ++ d :: w))
    · exact diverges_of_boundedPrefix hrep hbegins rfl
    · rw [replaceBounded_cons_of_absent hbegins]
      exact ih.cons c

end

def replaceEachBounded (word : α → Bool) (sigil : α) (text : List α → List α) (names : List (List α))
    (q : List α) : List α :=
  names.foldl (fun q name => replaceBounded word (sigil :: name) (text name) q) q

section

variable {text : List α → List α} {names : List (List α)}

lemma replaceEachBounded_cons (name q : List α) : replaceEachBounded word sigil text (name :: names) q =
      replaceEachBounded word sigil text names (replaceBounded word (sigil :: name) (text name) q) := rfl

lemma replaceEachBounded_append (pre post : List (List α)) (q : List α) :
    replaceEachBounded word sigil text (pre ++ post) q =
      replaceEachBounded word sigil text post (replaceEachBounded word sigil text pre q) := by
  simp [replaceEachBounded]

lemma replaceEachBounded_of_not_found {q : List α} (h : ∀ name ∈ names, found word (sigil :: name) q = false) :
    replaceEachBounded word sigil text names q = q := by
  induction names with
  | nil => rfl
  | cons name names ih =>
    rw [replaceEachBounded_cons, replaceBounded_of_not_found (h name mem_cons_self)]
    exact ih fun other hother => h other (mem_cons_of_mem _ hother)

lemma replaceEachBounded_append_cons {x : α} (hsigil : x ≠ sigil) (hx : ∀ name ∈ names, x ∉ name)
    (hword : word x = false) (a b : List α) :
    replaceEachBounded word sigil text names (a ++ x :: b) =
      replaceEachBounded word sigil text names a ++ x :: replaceEachBounded word sigil text names b := by
  induction names generalizing a b with
  | nil => rfl
  | cons name names ih =>
    have hname : x ∉ sigil :: name := by simp [hsigil, hx name mem_cons_self]
    rw [replaceEachBounded_cons, replaceBounded_append_cons hname hword (cons_ne_nil _ _)]
    exact ih (fun other h => hx other (mem_cons_of_mem _ h)) _ _

variable (htext : ∀ name ∈ names, ∃ h w, text name = h :: w ∧ h ≠ sigil ∧ starts h)

include htext

lemma Diverges.replaceEachBounded {x u : List α} (h : Diverges sigil starts x u) :
    Diverges sigil starts x (replaceEachBounded word sigil text names u) := by
  induction names generalizing u with
  | nil => exact h
  | cons name names ih =>
    exact ih (fun other hother => htext other (mem_cons_of_mem _ hother))
      (h.replaceBounded (htext name mem_cons_self))

theorem diverges_replaceEachBounded {q : List α} (h : ∃ name ∈ names, found word (sigil :: name) q = true) :
    Diverges sigil starts q (Lib.replaceEachBounded word sigil text names q) := by
  induction names with
  | nil => simp at h
  | cons name names ih =>
    have htail : ∀ other ∈ names, _ := fun other hother => htext other (mem_cons_of_mem _ hother)
    rw [replaceEachBounded_cons]
    cases hname : found word (sigil :: name) q with
    | true => exact (diverges_of_found (htext name mem_cons_self) hname).replaceEachBounded htail
    | false =>
      rw [replaceBounded_of_not_found hname]
      obtain ⟨other, hother, hfound⟩ := h
      rcases List.mem_cons.mp hother with rfl | hother
      · rw [hname] at hfound
        cases hfound
      · exact ih htail ⟨other, hother, hfound⟩

end

section

variable {name other : List α}

omit [DecidableEq α] in
lemma boundedPrefix_name (sigil : α) (hne : name ≠ []) (hname : ∀ c ∈ name, word c = true)
    (hother : ∀ c ∈ other, word c = true) :
    BoundedPrefix word (sigil :: name) (sigil :: other) ↔ name = other := by
  have hlast : (sigil :: name).getLast?.any word = true := by
    rw [getLast?_eq_some_getLast (cons_ne_nil _ _), getLast_cons hne, Option.any_some]
    exact hname _ (getLast_mem hne)
  rw [BoundedPrefix, hlast, cons_prefix_cons]
  constructor
  · rintro ⟨⟨-, t, rfl⟩, hend⟩
    cases t with
    | nil => simp
    | cons d t => simp [hother d (by simp)] at hend
  · rintro rfl
    simp

end

end Voyager.Lib
