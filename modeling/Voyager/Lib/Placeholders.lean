import Mathlib.Data.List.TakeWhile
import Mathlib.Tactic

/-! Replacing placeholders in a text one after the other, and all at once. A placeholder is a sigil followed
by a name; the names in a text are the longest runs of identifier characters behind a sigil. -/

namespace Voyager.Lib

open List Option

lemma mem_map_toList {keys : List String} {name : List Char} :
    name ∈ keys.map String.toList ↔ String.ofList name ∈ keys := by
  rw [List.mem_map]
  constructor
  · rintro ⟨key, hkey, rfl⟩
    simpa using hkey
  · intro h
    exact ⟨String.ofList name, h, by simp⟩

variable {α : Type} [DecidableEq α]

def replaceFrom (pat rep : List α) : ℕ → List α → List α
  | _, [] => []
  | skip + 1, _ :: cs => replaceFrom pat rep skip cs
  | 0, c :: cs =>
    if pat <+: c :: cs then rep ++ replaceFrom pat rep (pat.length - 1) cs
    else c :: replaceFrom pat rep 0 cs

def replaceAll (pat rep text : List α) : List α := replaceFrom pat rep 0 text

def occurrences (pat : List α) : List α → ℕ
  | [] => 0
  | c :: cs => (if pat <+: c :: cs then 1 else 0) + occurrences pat cs

variable (sigil : α) (ident : α → Bool)

def substituteFrom (value : List α → Option (List α)) : ℕ → List α → List α
  | _, [] => []
  | skip + 1, _ :: cs => substituteFrom value skip cs
  | 0, c :: cs =>
    if c = sigil then
      match value (cs.takeWhile ident) with
      | some text => text ++ substituteFrom value (cs.takeWhile ident).length cs
      | none => c :: substituteFrom value 0 cs
    else c :: substituteFrom value 0 cs

def substitute (value : List α → Option (List α)) (text : List α) : List α :=
  substituteFrom sigil ident value 0 text

def tokens (name : List α) : List α → ℕ
  | [] => 0
  | c :: cs => (if c = sigil ∧ cs.takeWhile ident = name then 1 else 0) + tokens name cs

section

variable {pat rep : List α}

lemma replaceFrom_eq (n : ℕ) (text : List α) : replaceFrom pat rep n text = replaceAll pat rep (text.drop n) := by
  induction text generalizing n with
  | nil => cases n <;> rfl
  | cons c cs ih =>
    cases n with
    | zero => rfl
    | succ n => exact ih n

lemma replaceAll_cons_of_absent {c : α} {cs : List α} (h : ¬ pat <+: c :: cs) :
    replaceAll pat rep (c :: cs) = c :: replaceAll pat rep cs := by
  simp [replaceAll, replaceFrom, h]

lemma replaceAll_pattern {p : α} {ps : List α} (text : List α) :
    replaceAll (p :: ps) rep (p :: (ps ++ text)) = rep ++ replaceAll (p :: ps) rep text := by
  have hbegins : p :: ps <+: p :: (ps ++ text) := prefix_append (p :: ps) text
  rw [replaceAll, replaceFrom, if_pos hbegins, replaceFrom_eq, length_cons, Nat.add_sub_cancel,
    drop_left]

lemma occurrences_le_append (pat a b : List α) : occurrences pat b ≤ occurrences pat (a ++ b) := by
  induction a with
  | nil => exact le_rfl
  | cons c a ih =>
    rw [cons_append, occurrences]
    omega

lemma replaceAll_append {a b : List α} (h : occurrences pat (a ++ b) = occurrences pat b) :
    replaceAll pat rep (a ++ b) = a ++ replaceAll pat rep b := by
  induction a with
  | nil => rfl
  | cons c a ih =>
    have hle := occurrences_le_append pat a b
    rw [cons_append, occurrences] at h
    have hnot : ¬ pat <+: c :: (a ++ b) := by
      intro hp
      simp only [hp, if_true] at h
      omega
    simp only [hnot, if_false, zero_add] at h
    rw [cons_append, replaceAll_cons_of_absent hnot, ih h, cons_append]

omit [DecidableEq α] in
lemma prefix_of_prefix_append_cons {a b : List α} {x : α} (hx : x ∉ pat) (h : pat <+: a ++ x :: b) : pat <+: a := by
  obtain h' | ⟨t, rfl⟩ := prefix_or_prefix_of_prefix h (prefix_append a (x :: b))
  · exact h'
  · rw [prefix_append_right_inj] at h
    cases t with
    | nil => simp
    | cons c t =>
      obtain ⟨rfl, -⟩ := List.cons_prefix_cons.mp h
      exact absurd (by simp) hx

lemma replaceAll_append_cons {x : α} (hx : x ∉ pat) (hpat : pat ≠ []) (a b : List α) :
    replaceAll pat rep (a ++ x :: b) = replaceAll pat rep a ++ x :: replaceAll pat rep b := by
  induction hn : a.length using Nat.strong_induction_on generalizing a with
  | h n ih =>
  by_cases hbegins : pat <+: a ++ x :: b
  · obtain ⟨t, rfl⟩ := prefix_of_prefix_append_cons hx hbegins
    obtain ⟨p, ps, rfl⟩ := exists_cons_of_ne_nil hpat
    have hlt : t.length < n := by
      simp only [length_append, length_cons] at hn
      omega
    rw [append_assoc, cons_append, replaceAll_pattern, ih _ hlt t rfl, cons_append,
      replaceAll_pattern, append_assoc]
  · cases a with
    | nil => exact replaceAll_cons_of_absent hbegins
    | cons c a =>
      have hshort : ¬ pat <+: c :: a := fun h => hbegins (h.trans (prefix_append _ _))
      rw [length_cons] at hn
      rw [cons_append] at hbegins ⊢
      rw [replaceAll_cons_of_absent hbegins, ih _ (by omega) a rfl,
        replaceAll_cons_of_absent hshort, cons_append]

omit [DecidableEq α] in
lemma infix_append_cons {x : α} (hx : x ∉ pat) {a b : List α} : pat <:+: a ++ x :: b ↔ pat <:+: a ∨ pat <:+: b := by
  constructor
  · intro h
    induction a with
    | nil =>
      rcases List.infix_cons_iff.mp h with h | h
      · exact .inl (prefix_of_prefix_append_cons hx h).isInfix
      · exact .inr h
    | cons c a ih =>
      rcases List.infix_cons_iff.mp h with h | h
      · exact .inl (prefix_of_prefix_append_cons (a := c :: a) hx h).isInfix
      · exact (ih h).imp_left fun h => infix_cons h
  · rintro (h | h)
    · exact h.trans (infix_append' [] a (x :: b))
    · exact h.trans ⟨a ++ [x], [], by simp⟩

omit [DecidableEq α] in
lemma not_prefix_of_ne {p c : α} {ps cs : List α} (h : c ≠ p) : ¬ p :: ps <+: c :: cs := by
  rw [cons_prefix_cons]
  exact fun hp => h hp.1.symm

lemma occurrences_append_of_notMem {p : α} {ps a : List α} (h : p ∉ a) (b : List α) :
    occurrences (p :: ps) (a ++ b) = occurrences (p :: ps) b := by
  induction a with
  | nil => rfl
  | cons c a ih =>
    rw [mem_cons, not_or] at h
    simp [occurrences, not_prefix_of_ne (Ne.symm h.1), ih h.2]

end

section

variable {sigil ident} {value : List α → Option (List α)}

lemma substituteFrom_eq (n : ℕ) (text : List α) :
    substituteFrom sigil ident value n text = substitute sigil ident value (text.drop n) := by
  induction text generalizing n with
  | nil => cases n <;> rfl
  | cons c cs ih =>
    cases n with
    | zero => rfl
    | succ n => exact ih n

lemma substitute_cons_of_ne {c : α} (h : c ≠ sigil) (cs : List α) :
    substitute sigil ident value (c :: cs) = c :: substitute sigil ident value cs := by
  simp [substitute, substituteFrom, h]

lemma substitute_append_of_notMem {a : List α} (h : sigil ∉ a) (b : List α) :
    substitute sigil ident value (a ++ b) = a ++ substitute sigil ident value b := by
  induction a with
  | nil => rfl
  | cons c a ih =>
    rw [mem_cons, not_or] at h
    rw [cons_append, substitute_cons_of_ne (Ne.symm h.1), ih h.2, cons_append]

lemma tokens_append_of_notMem {name a : List α} (h : sigil ∉ a) (b : List α) :
    tokens sigil ident name (a ++ b) = tokens sigil ident name b := by
  induction a with
  | nil => rfl
  | cons c a ih =>
    rw [mem_cons, not_or] at h
    simp [tokens, Ne.symm h.1, ih h.2]

variable (hident : ident sigil = false)

include hident

omit [DecidableEq α] in
lemma notMem_takeWhile (cs : List α) : sigil ∉ cs.takeWhile ident := by
  intro hmem
  have := mem_takeWhile_imp hmem
  simp [hident] at this

lemma substitute_sigil (cs : List α) : substitute sigil ident value (sigil :: cs) =
      (value (cs.takeWhile ident)).getD (sigil :: cs.takeWhile ident) ++
        substitute sigil ident value (cs.dropWhile ident) := by
  have hcs := takeWhile_append_dropWhile (p := ident) (l := cs)
  have hdrop : cs.drop (cs.takeWhile ident).length = cs.dropWhile ident := by
    nth_rewrite 2 [← hcs]
    exact drop_left
  rw [substitute, substituteFrom, if_pos rfl]
  cases value (cs.takeWhile ident) with
  | some text => simp only [substituteFrom_eq, hdrop, getD_some]
  | none =>
    have hcopy : substitute sigil ident value (_ ++ _) = _ :=
      substitute_append_of_notMem (notMem_takeWhile hident cs) (cs.dropWhile ident)
    rw [hcs] at hcopy
    simp only [substituteFrom_eq, drop_zero, hcopy, getD_none, cons_append]

lemma tokens_sigil (name cs : List α) : tokens sigil ident name (sigil :: cs) =
      (if cs.takeWhile ident = name then 1 else 0) + tokens sigil ident name (cs.dropWhile ident) := by
  have hcs := takeWhile_append_dropWhile (p := ident) (l := cs)
  have hskip : tokens sigil ident name (_ ++ _) = _ :=
    tokens_append_of_notMem (notMem_takeWhile hident cs) (cs.dropWhile ident)
  rw [hcs] at hskip
  simp [tokens, hskip]

lemma replaceAll_substitute {name text : List α} (hname : value name = none) (q : List α) :
    tokens sigil ident name q ≤ occurrences (sigil :: name) (substitute sigil ident value q) ∧
      (occurrences (sigil :: name) (substitute sigil ident value q) = tokens sigil ident name q →
        replaceAll (sigil :: name) text (substitute sigil ident value q) =
          substitute sigil ident (Function.update value name (some text)) q) := by
  induction hn : q.length using Nat.strong_induction_on generalizing q with
  | h n ih =>
  cases q with
  | nil => simp [tokens, substitute, substituteFrom, occurrences, replaceAll, replaceFrom]
  | cons c cs =>
  rw [length_cons] at hn
  by_cases hc : c = sigil
  · subst hc
    have hrest : (cs.dropWhile ident).length < n := by
      have := (dropWhile_sublist ident (l := cs)).length_le
      omega
    obtain ⟨hle, heq⟩ := ih _ hrest _ rfl
    rw [tokens_sigil hident, substitute_sigil hident, substitute_sigil hident]
    by_cases hk : cs.takeWhile ident = name
    · have hfree : c ∉ name := hk ▸ notMem_takeWhile hident cs
      rw [if_pos hk, hk, hname, Function.update_self, getD_none, getD_some, cons_append,
        occurrences, if_pos (by simp), occurrences_append_of_notMem hfree]
      refine ⟨by omega, fun h => ?_⟩
      rw [replaceAll_pattern, heq (by omega)]
    · -- both scans write the same piece here, and no occurrence may begin in it
      have hpiece := occurrences_le_append (c :: name)
        ((value (cs.takeWhile ident)).getD (c :: cs.takeWhile ident))
        (substitute c ident value (cs.dropWhile ident))
      rw [if_neg hk, Function.update_of_ne hk, zero_add]
      refine ⟨hle.trans hpiece, fun h => ?_⟩
      rw [replaceAll_append (le_antisymm (by omega) hpiece), heq (by omega)]
  · obtain ⟨hle, heq⟩ := ih cs.length (by omega) cs rfl
    have hnot : ¬ sigil :: name <+: c :: substitute sigil ident value cs := not_prefix_of_ne hc
    rw [substitute_cons_of_ne hc, substitute_cons_of_ne hc, tokens, occurrences, if_neg hnot,
      replaceAll_cons_of_absent hnot]
    simp only [hc, false_and, if_false, zero_add]
    exact ⟨hle, fun h => by rw [heq h]⟩

end

def only (names : List (List α)) (text : List α → List α) (name : List α) : Option (List α) :=
  if name ∈ names then some (text name) else none

variable (text : List α → List α)

/-- Each name, when its turn comes, occurs in the text exactly where the query has it. -/
def Undisturbed (names : List (List α)) (q : List α) : Prop :=
  ∀ pre name post, names = pre ++ name :: post →
    occurrences (sigil :: name) (substitute sigil ident (only pre text) q) = tokens sigil ident name q

lemma only_concat (pre : List (List α)) (name : List α) :
    only (pre ++ [name]) text = Function.update (only pre text) name (some (text name)) := by
  funext other
  by_cases h : other = name
  · simp [only, h]
  · simp [only, h]

lemma substitute_only_nil (q : List α) : substitute sigil ident (only [] text) q = q := by
  induction q with
  | nil => rfl
  | cons c cs ih =>
    by_cases h : c = sigil
    · subst h
      rw [substitute] at ih
      simp [substitute, substituteFrom, only, ih]
    · rw [substitute_cons_of_ne h, ih]

def replaceEach (names : List (List α)) (q : List α) : List α :=
  names.foldl (fun q name => replaceAll (sigil :: name) (text name) q) q

variable {text : List α → List α} {names : List (List α)} {q : List α}

lemma replaceEach_append_cons {x : α} (hsigil : x ≠ sigil) (hx : ∀ name ∈ names, x ∉ name) (a b : List α) :
    replaceEach sigil text names (a ++ x :: b) =
      replaceEach sigil text names a ++ x :: replaceEach sigil text names b := by
  induction names generalizing a b with
  | nil => rfl
  | cons name names ih =>
    have hname : x ∉ sigil :: name := by simp [hsigil, hx name mem_cons_self]
    rw [replaceEach, foldl_cons, replaceAll_append_cons hname (cons_ne_nil _ _)]
    exact ih (fun other h => hx other (mem_cons_of_mem _ h)) _ _

variable {sigil ident} in
lemma Undisturbed.of_append {pre post : List (List α)} (h : Undisturbed sigil ident text (pre ++ post) q) :
    Undisturbed sigil ident text pre q :=
  fun front name back hsplit => h front name (back ++ post) (by simp [hsplit])

theorem replaceEach_eq_substitute (hident : ident sigil = false) (hnodup : names.Nodup)
    (h : Undisturbed sigil ident text names q) :
    replaceEach sigil text names q = substitute sigil ident (only names text) q := by
  induction names using List.reverseRecOn with
  | nil => exact (substitute_only_nil sigil ident text q).symm
  | append_singleton pre name ih =>
    have hnew : only pre text name = none := by
      have hdisjoint := disjoint_of_nodup_append hnodup
      exact if_neg fun hmem => hdisjoint hmem (mem_singleton_self name)
    have ih := ih hnodup.of_append_left h.of_append
    rw [replaceEach] at ih
    rw [replaceEach, foldl_append, ih, only_concat]
    exact (replaceAll_substitute hident hnew q).2 (h pre name [] rfl)

end Voyager.Lib
