import Voyager.Lib.Placeholders

/-! When replacing placeholders one after the other can only agree with the single scan by not disturbing it. -/

namespace Voyager.Lib

open List Option

variable {α : Type} [DecidableEq α] {sigil : α} {ident : α → Bool}
  {text : List α → List α} {names : List (List α)}

lemma replaceEach_concat (pre : List (List α)) (name q : List α) : replaceEach sigil text (pre ++ [name]) q =
      replaceAll (sigil :: name) (text name) (replaceEach sigil text pre q) := by
  simp [replaceEach]

lemma replaceEach_append (pre post : List (List α)) (q : List α) :
    replaceEach sigil text (pre ++ post) q = replaceEach sigil text post (replaceEach sigil text pre q) := by
  simp [replaceEach]

lemma replaceEach_nil (names : List (List α)) : replaceEach sigil text names [] = [] := by
  induction names with
  | nil => rfl
  | cons name names ih => exact ih

lemma replaceEach_cons_of_ne {c : α} (h : c ≠ sigil) (names : List (List α)) (q : List α) :
    replaceEach sigil text names (c :: q) = c :: replaceEach sigil text names q := by
  induction names generalizing q with
  | nil => rfl
  | cons name names ih =>
    have hcons : replaceEach sigil text (name :: names) (c :: q) =
        replaceEach sigil text names (replaceAll (sigil :: name) (text name) (c :: q)) := rfl
    rw [hcons, replaceAll_cons_of_absent (not_prefix_of_ne h), ih]
    rfl

variable (htext : ∀ name ∈ names, ∃ c cs, text name = c :: cs ∧ c ≠ sigil)

include htext

lemma replaceEach_sigil {q r : List α} (h : replaceEach sigil text names (sigil :: q) = sigil :: r) :
    replaceEach sigil text names q = r ∧
      ∀ pre name post, names = pre ++ name :: post →
        ¬ sigil :: name <+: sigil :: replaceEach sigil text pre q := by
  induction names generalizing q with
  | nil => exact ⟨(cons.inj h).2, by simp⟩
  | cons name names ih =>
    have hcons (t : List α) : replaceEach sigil text (name :: names) t =
        replaceEach sigil text names (replaceAll (sigil :: name) (text name) t) := rfl
    have hnot : ¬ sigil :: name <+: sigil :: q := by
      rintro ⟨t, ht⟩
      obtain ⟨c, cs, hc, hne⟩ := htext name (by simp)
      rw [hcons, ← ht, cons_append, replaceAll_pattern, hc, cons_append,
        replaceEach_cons_of_ne hne] at h
      exact hne (cons.inj h).1
    rw [hcons, replaceAll_cons_of_absent hnot] at h
    obtain ⟨hq, hsteps⟩ := ih (fun n hn => htext n (by simp [hn])) h
    refine ⟨hq, fun pre other post hsplit => ?_⟩
    cases pre with
    | nil =>
      obtain ⟨rfl, -⟩ := cons.inj hsplit
      exact hnot
    | cons first pre =>
      obtain ⟨rfl, hrest⟩ := cons.inj hsplit
      exact hsteps pre other post hrest

def Steady (sigil : α) (text : List α → List α) (names : List (List α)) (a q : List α) : Prop :=
  ∀ pre name post, names = pre ++ name :: post →
    occurrences (sigil :: name) (a ++ replaceEach sigil text pre q) =
      occurrences (sigil :: name) (replaceEach sigil text pre q)

omit htext in
lemma Steady.replaceEach {a q : List α} {names : List (List α)} (h : Steady sigil text names a q) :
    replaceEach sigil text names (a ++ q) = a ++ replaceEach sigil text names q := by
  induction names using reverseRecOn with
  | nil => rfl
  | append_singleton pre name ih =>
    have hpre : Steady sigil text pre a q := fun front other post hsplit =>
      h front other (post ++ [name]) (by simp [hsplit])
    rw [replaceEach_concat, replaceEach_concat, ih hpre, replaceAll_append (h pre name [] rfl)]

omit htext in
lemma Steady.of_append {a q : List α} {pre post : List (List α)} (h : Steady sigil text (pre ++ post) a q) :
    Steady sigil text pre a q := fun front name back hsplit => h front name (back ++ post) (by simp [hsplit])

lemma steady_of_replaceEach {a q r : List α} (h : replaceEach sigil text names (a ++ q) = a ++ r) :
    Steady sigil text names a q := by
  induction a with
  | nil => exact fun _ _ _ _ => rfl
  | cons c a ih =>
    rw [cons_append, cons_append] at h
    intro pre name post hsplit
    by_cases hc : c = sigil
    · subst hc
      obtain ⟨htail, hsteps⟩ := replaceEach_sigil htext h
      have hpre := (hsplit ▸ ih htail : Steady c text (pre ++ name :: post) a q).of_append
      have hnot := hsteps pre name post hsplit
      rw [hpre.replaceEach] at hnot
      rw [cons_append, occurrences, if_neg hnot, zero_add, ih htail pre name post hsplit]
    · rw [replaceEach_cons_of_ne hc] at h
      rw [cons_append, occurrences, if_neg (not_prefix_of_ne hc), zero_add,
        ih (cons.inj h).2 pre name post hsplit]

omit htext

def Separated (sigil : α) (names : List (List α)) (q : List α) : Prop :=
  ∀ name ∈ names, ¬ sigil :: (name ++ [sigil]) <:+: q

omit [DecidableEq α] in
lemma not_prefix_name {name other rest : List α} (hother : ∀ c ∈ other, ident c = true)
    (hbegins : ¬ other <+: name) (hrest : ∀ c ∈ rest.head?, ident c = false) : ¬ other <+: name ++ rest := by
  intro h
  obtain h' | ⟨t, ht⟩ := prefix_or_prefix_of_prefix h (prefix_append name rest)
  · exact hbegins h'
  · subst ht
    rw [prefix_append_right_inj] at h
    cases t with
    | nil => exact hbegins (by simp)
    | cons c t =>
      obtain ⟨u, rfl⟩ := h
      have := hrest c (by simp)
      rw [hother c (by simp)] at this
      cases this

lemma head?_replaceEach {rest : List α} (h : ∀ c ∈ rest.head?, c ≠ sigil) (names : List (List α)) :
    (replaceEach sigil text names rest).head? = rest.head? := by
  cases rest with
  | nil => rw [replaceEach_nil]
  | cons c rest => rw [replaceEach_cons_of_ne (h c rfl)]; rfl

lemma split_cases {β : Type} {pre post front back : List β} {a b : β} (h : pre ++ a :: post = front ++ b :: back) :
    (∃ mid, front = pre ++ a :: mid) ∨ (pre = front ∧ a = b) ∨
      ∃ mid, pre = front ++ b :: mid ∧ back = mid ++ a :: post := by
  obtain ⟨mid, hfront, htail⟩ | ⟨mid, hpre, htail⟩ := append_eq_append_iff.mp h
  · cases mid with
    | nil => exact .inr (.inl ⟨by simpa using hfront.symm, (cons.inj htail).1⟩)
    | cons c mid =>
      obtain ⟨rfl, -⟩ := cons.inj htail
      exact .inl ⟨mid, hfront⟩
  · cases mid with
    | nil => exact .inr (.inl ⟨by simpa using hpre, (cons.inj htail).1.symm⟩)
    | cons c mid =>
      obtain ⟨rfl, hback⟩ := cons.inj htail
      exact .inr (.inr ⟨mid, hpre, hback⟩)

structure Ordered (ident : α → Bool) (names : List (List α)) : Prop where
  nodup : names.Nodup
  ident : ∀ name ∈ names, ∀ c ∈ name, ident c = true
  order : ∀ pre name post, names = pre ++ name :: post → ∀ other ∈ pre, ¬ other <+: name

section

variable (hident : ident sigil = false)

include hident

lemma steady_name {pre post : List (List α)} {name rest : List α} (hnames : Ordered ident names)
    (hsplit : names = pre ++ name :: post) (hrest : ∀ c ∈ rest.head?, ident c = false ∧ c ≠ sigil) :
    Steady sigil text pre (sigil :: name) rest := by
  intro front other back hpre
  have hmem : name ∈ names := by simp [hsplit]
  have hother : other ∈ pre := by simp [hpre]
  have hfree : sigil ∉ name := by
    intro h
    have := hnames.ident name hmem sigil h
    rw [hident] at this
    cases this
  have hnot : ¬ other <+: name ++ replaceEach sigil text front rest := by
    refine not_prefix_name (hnames.ident other (by simp [hsplit, hother]))
      (hnames.order pre name post hsplit other hother) ?_
    rw [head?_replaceEach fun c hc => (hrest c hc).2]
    exact fun c hc => (hrest c hc).1
  rw [cons_append, occurrences, if_neg (by simpa using hnot), zero_add, occurrences_append_of_notMem hfree]

lemma undisturbed_of_absent (hnodup : names.Nodup) {cs : List α} (habsent : cs.takeWhile ident ∉ names)
    (hsteady : Steady sigil text names (sigil :: cs.takeWhile ident) (cs.dropWhile ident))
    (hrest : Undisturbed sigil ident text names (cs.dropWhile ident)) :
    Undisturbed sigil ident text names (sigil :: cs) := by
  intro pre name post hsplit
  have hpre : only pre text (cs.takeWhile ident) = none := if_neg fun h => habsent (by simp [hsplit, h])
  have hne : cs.takeWhile ident ≠ name := fun h => habsent (by simp [hsplit, h])
  have heach := replaceEach_eq_substitute sigil ident hident (hsplit ▸ hnodup).of_append_left
    (hsplit ▸ hrest : Undisturbed sigil ident text (pre ++ name :: post) _).of_append
  rw [tokens_sigil hident, if_neg hne, zero_add, substitute_sigil hident, hpre, getD_none, ← heach,
    hsteady pre name post hsplit, heach]
  exact hrest pre name post hsplit

lemma undisturbed_of_present (hnodup : names.Nodup) {front back : List (List α)} {cs : List α}
    (hsplit : names = front ++ cs.takeWhile ident :: back)
    (hfront : Steady sigil text front (sigil :: cs.takeWhile ident) (cs.dropWhile ident))
    (hback : Steady sigil text back (text (cs.takeWhile ident))
      (replaceEach sigil text (front ++ [cs.takeWhile ident]) (cs.dropWhile ident)))
    (hrest : Undisturbed sigil ident text names (cs.dropWhile ident)) :
    Undisturbed sigil ident text names (sigil :: cs) := by
  intro pre name post hname
  have heach := replaceEach_eq_substitute sigil ident hident (hname ▸ hnodup).of_append_left
    (hname ▸ hrest : Undisturbed sigil ident text (pre ++ name :: post) _).of_append
  have htokens := hrest pre name post hname
  rw [tokens_sigil hident, substitute_sigil hident, ← heach]
  rw [← heach] at htokens
  rw [hsplit] at hnodup
  obtain ⟨mid, hbefore⟩ | ⟨rfl, rfl⟩ | ⟨mid, hafter, hmid⟩ := split_cases (hname.symm.trans hsplit)
  · have hne : cs.takeWhile ident ≠ name := by
      rintro rfl
      exact (disjoint_of_nodup_append hnodup) (by simp [hbefore]) (mem_cons_self)
    have hnone : only pre text (cs.takeWhile ident) = none :=
      if_neg fun h => (disjoint_of_nodup_append hnodup) (by simp [hbefore, h]) (mem_cons_self)
    rw [if_neg hne, zero_add, hnone, getD_none, hfront pre name mid hbefore, htokens]
  · have hnone : only pre text (cs.takeWhile ident) = none :=
      if_neg fun h => (disjoint_of_nodup_append hnodup) h (mem_cons_self)
    rw [if_pos rfl, hnone, getD_none, cons_append, occurrences, if_pos (by simp),
      occurrences_append_of_notMem (notMem_takeWhile hident cs), htokens]
  · have hne : cs.takeWhile ident ≠ name := by
      rintro rfl
      have := hnodup.of_append_right
      simp [hmid] at this
    have hsome : only pre text (cs.takeWhile ident) = some (text (cs.takeWhile ident)) :=
      if_pos (by simp [hafter])
    have hbehind : replaceEach sigil text pre (cs.dropWhile ident) =
        replaceEach sigil text mid
          (replaceEach sigil text (front ++ [cs.takeWhile ident]) (cs.dropWhile ident)) := by
      rw [← replaceEach_append, hafter, append_assoc, singleton_append]
    rw [hbehind] at htokens ⊢
    rw [if_neg hne, zero_add, hsome, getD_some, hback mid name post hmid, htokens]

theorem undisturbed_of_replaceEach_eq (hnames : Ordered ident names)
    (htext : ∀ name ∈ names, ∃ c cs, text name = c :: cs ∧ c ≠ sigil) {q : List α}
    (hsep : Separated sigil names q)
    (h : replaceEach sigil text names q = substitute sigil ident (only names text) q) :
    Undisturbed sigil ident text names q := by
  induction hn : q.length using Nat.strong_induction_on generalizing q with
  | h n ih =>
  cases q with
  | nil => exact fun _ _ _ _ => rfl
  | cons c cs =>
  rw [length_cons] at hn
  by_cases hc : c = sigil
  · subst hc
    have hcs := takeWhile_append_dropWhile (p := ident) (l := cs)
    have hlt : (cs.dropWhile ident).length < n := by
      have := (dropWhile_sublist ident (l := cs)).length_le
      omega
    have hsep' : Separated c names (cs.dropWhile ident) := fun name hname hin =>
      hsep name hname (hin.trans ((dropWhile_suffix ident).trans (suffix_cons c cs)).isInfix)
    have hq : c :: cs = c :: cs.takeWhile ident ++ cs.dropWhile ident := by rw [cons_append, hcs]
    rw [substitute_sigil hident, hq] at h
    by_cases hmem : cs.takeWhile ident ∈ names
    · obtain ⟨front, back, hsplit⟩ := append_of_mem hmem
      have hrest : ∀ d ∈ (cs.dropWhile ident).head?, ident d = false ∧ d ≠ c := by
        intro d hd
        have hcons : cs.dropWhile ident = d :: (cs.dropWhile ident).tail := eq_cons_of_mem_head? hd
        refine ⟨by simpa [Option.mem_def.mp hd] using head?_dropWhile_not ident cs, ?_⟩
        rintro rfl
        refine hsep _ hmem ⟨[], (cs.dropWhile ident).tail, ?_⟩
        rw [nil_append, cons_append, append_assoc, singleton_append, ← hcons, hcs]
      have hfront : Steady c text front _ _ := steady_name hident hnames hsplit hrest
      have hfirst : replaceEach c text names (c :: cs.takeWhile ident ++ cs.dropWhile ident) =
          replaceEach c text back (text (cs.takeWhile ident) ++
            replaceEach c text (front ++ [cs.takeWhile ident]) (cs.dropWhile ident)) := by
        rw [replaceEach_concat, ← replaceAll_pattern, hsplit, replaceEach_append, hfront.replaceEach]
        rfl
      rw [hfirst, only, if_pos hmem, getD_some] at h
      have hback := steady_of_replaceEach (fun name hname => htext name (by simp [hsplit, hname])) h
      rw [hback.replaceEach, append_cancel_left_eq, ← replaceEach_append, append_assoc,
        singleton_append, ← hsplit] at h
      exact undisturbed_of_present hident hnames.nodup hsplit hfront hback (ih _ hlt hsep' h rfl)
    · rw [only, if_neg hmem, getD_none] at h
      have hsteady := steady_of_replaceEach htext h
      rw [hsteady.replaceEach, append_cancel_left_eq] at h
      exact undisturbed_of_absent hident hnames.nodup hmem hsteady (ih _ hlt hsep' h rfl)
  · rw [replaceEach_cons_of_ne hc, substitute_cons_of_ne hc] at h
    have hsep' : Separated sigil names cs := fun name hname hin =>
      hsep name hname (hin.trans (suffix_cons c cs).isInfix)
    have hcs := ih cs.length (by omega) hsep' (cons.inj h).2 rfl
    intro pre name post hsplit
    rw [substitute_cons_of_ne hc, occurrences, if_neg (not_prefix_of_ne hc), tokens, hcs pre name post hsplit]
    simp [hc]

end

end Voyager.Lib
