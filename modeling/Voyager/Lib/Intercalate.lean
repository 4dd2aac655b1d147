import Voyager.Lib.PrefixFree

namespace Voyager.Lib

open List

variable {xs ys : List String}

lemma intercalate_append (sep : String) (hxs : xs ≠ []) (hys : ys ≠ []) :
    sep.intercalate (xs ++ ys) = sep.intercalate xs ++ sep ++ sep.intercalate ys := by
  induction xs with
  | nil => exact absurd rfl hxs
  | cons x xs ih =>
    cases xs with
    | nil =>
      obtain ⟨y, ys, rfl⟩ := exists_cons_of_ne_nil hys
      simp [String.intercalate_cons_cons]
    | cons x' xs =>
      have hrest := ih (cons_ne_nil x' xs)
      simp only [cons_append, String.intercalate_cons_cons] at hrest ⊢
      rw [hrest]
      simp [String.append_assoc]

lemma toList_intercalate_cons (sep text : String) (texts : List String) :
    (sep.intercalate (text :: texts)).toList = text.toList ++ texts.flatMap fun t => sep.toList ++ t.toList := by
  induction texts generalizing text with
  | nil => simp
  | cons text' texts ih =>
    rw [String.intercalate_cons_cons, String.toList_append, String.toList_append, ih text']
    simp

lemma intercalate_toList (sep : Char) {texts : List String} (h : texts ≠ []) :
    ((String.singleton sep).intercalate texts).toList ++ [sep] = texts.flatMap fun text => text.toList ++ [sep] := by
  induction texts with
  | nil => exact absurd rfl h
  | cons text texts ih =>
    cases texts with
    | nil => simp
    | cons text' texts =>
      have hrest := ih (cons_ne_nil text' texts)
      rw [String.intercalate_cons_cons, flatMap_cons, ← hrest]
      simp

lemma of_mem_splitOn {sep : Char} {cs part : List Char} (h : part ∈ cs.splitOn sep) : sep ∉ part ∧ part ⊆ cs := by
  induction cs generalizing part with
  | nil => simp_all [splitOn]
  | cons c cs ih =>
    rw [splitOn, splitOnP_cons_eq_if_modifyHead] at h
    split_ifs at h with hc
    · rcases mem_cons.mp h with rfl | h
      · simp
      · exact ⟨(ih h).1, subset_cons_of_subset c (ih h).2⟩
    · cases hparts : cs.splitOnP (· == sep) with
      | nil => simp [hparts] at h
      | cons first parts =>
        rw [splitOn, hparts] at ih
        rw [hparts, modifyHead_cons] at h
        rcases mem_cons.mp h with rfl | h
        · obtain ⟨hsep, hsub⟩ := ih mem_cons_self
          refine ⟨?_, cons_subset_cons c hsub⟩
          simp only [mem_cons, not_or]
          exact ⟨fun heq => hc (by simp [heq]), hsep⟩
        · obtain ⟨hsep, hsub⟩ := ih (mem_cons_of_mem _ h)
          exact ⟨hsep, subset_cons_of_subset c hsub⟩

end Voyager.Lib
